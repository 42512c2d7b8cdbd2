import Gorouter.Registry.Registry

/-!
# Registry — Runs of calls

Facts about every run of `Register`, `Unregister` and prune ticks from a
registry, each proved once per call by the per-method lemmas of
`Registry.Registry` and then over the run by `run_invariant`.

`AllStored Q` says that a property of endpoint slots holds of every slot
stored in the trie; it survives every call that stores only slots with the
property. With it: every stored endpoint is in the router's shard and has
a threshold register's clamp lets through (`stored_endpoints_clamped`). No
pool is ever held at two paths, so a pool's pointer reaches one route only
(`pool_ids_distinct`).

Without ticks, a run is determined key by key: the pool a route key shows,
its pointer identity aside, is the fold of the calls on that key through
`keyStep` (`Find_run_eraseId`), so its endpoints are the fold of `Put` and
`Remove` the spec describes (`keyFold`), and a reordering that keeps the
order of the calls on each key leaves every route key's pool as it was.
-/

namespace Gorouter.Registry

open Gorouter.Route Gorouter.Container Gorouter.Container.Trie

/-! ## Invariants over runs -/

theorem RouteRegistry.run_invariant (Inv : RouteRegistry → Prop) (calls : List Call)
    (hstep : ∀ r, ∀ c ∈ calls, Inv r → Inv (r.step c)) : ∀ r, Inv r → Inv (r.run calls) := by
  induction calls with
  | nil => exact fun r h => h
  | cons c cs ih =>
    intro r h
    exact ih (fun r' c' hc' => hstep r' c' (List.mem_cons_of_mem _ hc')) _
      (hstep r c (List.mem_cons_self _ _) h)

/-- `Q` holds of every endpoint slot stored in the trie. -/
def AllStored (Q : EndpointElem → Prop) (t : Trie) : Prop :=
  ∀ P q, t.findPool P = some q → ∀ x ∈ q.endpoints, Q x

section AllStored

variable {Q : EndpointElem → Prop} {r : RouteRegistry}

theorem AllStored.register (h : AllStored Q r.byURI) {uri : Uri} {e : Endpoint} {now : Int}
    (he : Q ⟨r.clampStaleThreshold e, now⟩) : AllStored Q (r.register uri e now).1.byURI := by
  intro P q hq x hx
  rw [RouteRegistry.findPool_register] at hq
  split_ifs at hq
  · obtain rfl := Option.some.inj hq
    rcases mem_of_mem_putElems (by simpa using hx) with rfl | hx
    · exact he
    · cases hf : r.byURI.Find uri.RouteKey with
      | none => simp [hf] at hx
      | some p => exact h _ p hf x (by simpa [hf] using hx)
  · exact h P q hq x hx

theorem AllStored.unregister (h : AllStored Q r.byURI) (uri : Uri) (e : Endpoint) (now : Int) :
    AllStored Q (r.unregister uri e now).byURI := by
  intro P q hq x hx
  rw [RouteRegistry.findPool_unregister] at hq
  split_ifs at hq
  · cases hf : r.byURI.Find uri.RouteKey with
    | none => simp [hf] at hq
    | some p =>
      simp only [hf, Option.some_bind] at hq
      split_ifs at hq
      obtain rfl := Option.some.inj hq
      exact h _ p hf x (by simp at hx; exact hx.1)
  · exact h P q hq x hx

/-- A tick only drops slots and re-stamps them. -/
theorem AllStored.pruneStaleDroplets (h : AllStored Q r.byURI)
    (hQ : ∀ x t, Q x → Q { x with updatedAt := t }) (s : Bool) (now : Int) :
    AllStored Q (r.pruneStaleDroplets s now).byURI := by
  cases s with
  | true => exact h
  | false =>
    have hstart : AllStored Q (r.tickStart now).byURI := by
      unfold RouteRegistry.tickStart
      split_ifs
      · intro P q hq x hx
        rw [RouteRegistry.findPool_freshenRoutes] at hq
        obtain ⟨q0, hq0, rfl⟩ := Option.map_eq_some'.mp hq
        obtain ⟨y, hy, rfl⟩ := List.mem_map.mp (by simpa using hx)
        exact hQ _ _ (h P q0 hq0 y hy)
      · exact h
    intro P q hq x hx
    rw [RouteRegistry.byURI_pruneStaleDroplets] at hq
    rcases findPool_walkRoot (fun pool => (pool.PruneEndpoints now).1) (r.emptyPoolRemovable · now)
      (r.tickStart now).byURI_wf P with h' | ⟨h', -⟩
    · rw [h'] at hq
      obtain ⟨q0, hq0, rfl⟩ := Option.map_eq_some'.mp hq
      exact hstart P q0 hq0 x (by simp at hx; exact hx.1)
    · simp [h'] at hq

theorem AllStored.step (h : AllStored Q r.byURI) (hQ : ∀ x t, Q x → Q { x with updatedAt := t })
    (c : Call) (hreg : ∀ uri e now, c = .Register uri e now → r.endpointInRouterShard e = true →
      Q ⟨r.clampStaleThreshold e, now⟩) :
    AllStored Q (r.step c).byURI := by
  cases c with
  | Register uri e now =>
    simp only [RouteRegistry.step, RouteRegistry.Register]
    split_ifs with hs
    · exact h.register (hreg uri e now rfl hs)
    · exact h
  | Unregister uri e now =>
    simp only [RouteRegistry.step, RouteRegistry.Unregister]
    split_ifs
    · exact h.unregister uri e now
    · exact h
  | prune s now => exact h.pruneStaleDroplets hQ s now

end AllStored

/-! ## Pools are not shared -/

/-- No two paths of the trie hold the same pool: a pointer reaches one route. -/
def DistinctIds (t : Trie) : Prop :=
  ∀ P P' q q', t.findPool P = some q → t.findPool P' = some q' → q.id = q'.id → P = P'

/-- Every pool of `t'` is a pool of `t` at the same path, with its identity. -/
def KeepsIds (t t' : Trie) : Prop :=
  ∀ P q, t'.findPool P = some q → ∃ q₀, t.findPool P = some q₀ ∧ q₀.id = q.id

theorem DistinctIds.of_keepsIds {t t' : Trie} (h : DistinctIds t) (hk : KeepsIds t t') :
    DistinctIds t' := fun P P' q q' hq hq' hid => by
  obtain ⟨q₀, h₀, e₀⟩ := hk P q hq
  obtain ⟨q₁, h₁, e₁⟩ := hk P' q' hq'
  exact h P P' q₀ q₁ h₀ h₁ (by rw [e₀, e₁, hid])

theorem KeepsIds.trans {t t' t'' : Trie} (h : KeepsIds t t') (h' : KeepsIds t' t'') : KeepsIds t t'' :=
  fun P q hq => by
    obtain ⟨q₁, h₁, e₁⟩ := h' P q hq
    obtain ⟨q₀, h₀, e₀⟩ := h P q₁ h₁
    exact ⟨q₀, h₀, e₀.trans e₁⟩

theorem KeepsIds.unregister (r : RouteRegistry) (uri : Uri) (e : Endpoint) (now : Int) :
    KeepsIds r.byURI (r.unregister uri e now).byURI := by
  intro P q hq
  rw [RouteRegistry.findPool_unregister] at hq
  split_ifs at hq with hP
  · obtain ⟨p, hp, hq⟩ := Option.bind_eq_some.mp hq
    split_ifs at hq
    obtain rfl := Option.some.inj hq
    exact ⟨p, hP ▸ hp, rfl⟩
  · exact ⟨q, hq, rfl⟩

/-- A tick keeps or drops each pool, with its identity. -/
theorem KeepsIds.pruneStaleDroplets (r : RouteRegistry) (s : Bool) (now : Int) :
    KeepsIds r.byURI (r.pruneStaleDroplets s now).byURI := by
  cases s with
  | true => exact fun P q hq => ⟨q, hq, rfl⟩
  | false =>
    have hstart : KeepsIds r.byURI (r.tickStart now).byURI := by
      unfold RouteRegistry.tickStart
      split_ifs
      · intro P q hq
        rw [RouteRegistry.findPool_freshenRoutes] at hq
        obtain ⟨q₀, hq₀, rfl⟩ := Option.map_eq_some'.mp hq
        exact ⟨q₀, hq₀, rfl⟩
      · exact fun P q hq => ⟨q, hq, rfl⟩
    refine hstart.trans fun P q hq => ?_
    rw [RouteRegistry.byURI_pruneStaleDroplets] at hq
    rcases findPool_walkRoot (fun pool => (pool.PruneEndpoints now).1) (r.emptyPoolRemovable · now)
      (r.tickStart now).byURI_wf P with h' | ⟨h', -⟩
    · rw [h'] at hq
      obtain ⟨q₀, hq₀, rfl⟩ := Option.map_eq_some'.mp hq
      exact ⟨q₀, hq₀, rfl⟩
    · simp [h'] at hq

/-- `register` puts into the pool at the route key or into a new pool whose
identity no pool of the trie has. -/
theorem DistinctIds.register {r : RouteRegistry} (h : DistinctIds r.byURI) (uri : Uri) (e : Endpoint)
    (now : Int) : DistinctIds (r.register uri e now).1.byURI := by
  have hfresh : ∀ Q q', Q ≠ segments uri.RouteKey → r.byURI.findPool Q = some q' →
      ((r.byURI.Find uri.RouteKey).getD (NewPool r.nextPoolId (r.newPoolOpts uri) now)).id ≠ q'.id := by
    intro Q q' hQ hq' hid
    cases hf : r.byURI.Find uri.RouteKey with
    | none =>
      have hlt := r.byURI_ids Q q' hq'
      simp [hf, NewPool] at hid
      omega
    | some p₀ =>
      rw [hf] at hid
      exact hQ (h Q (segments uri.RouteKey) q' p₀ hq' hf hid.symm)
  intro P P' q q' hq hq' hid
  rw [RouteRegistry.findPool_register] at hq hq'
  split_ifs at hq hq' with hP hP'
  · exact hP.trans hP'.symm
  · obtain rfl := Option.some.inj hq; exact absurd hid (hfresh P' q' hP' hq')
  · obtain rfl := Option.some.inj hq'; exact absurd hid.symm (hfresh P q hP hq)
  · exact h P P' q q' hq hq' hid

/-- No run shares a pool between two routes, so a put through a pool's
pointer changes one route only. -/
theorem pool_ids_distinct (c : Config) (calls : List Call) :
    DistinctIds ((NewRouteRegistry c).run calls).byURI := by
  refine RouteRegistry.run_invariant (fun r => DistinctIds r.byURI) calls (fun r call _ h => ?_) _
    fun P P' q q' hq => by simp [NewRouteRegistry] at hq
  cases call with
  | Register uri e now =>
    simp only [RouteRegistry.step, RouteRegistry.Register]
    split_ifs
    · exact h.register uri e now
    · exact h
  | Unregister uri e now =>
    simp only [RouteRegistry.step, RouteRegistry.Unregister]
    split_ifs
    · exact h.of_keepsIds (KeepsIds.unregister r uri e now)
    · exact h
  | prune s now => exact h.of_keepsIds (KeepsIds.pruneStaleDroplets r s now)

/-! ## Stored endpoints -/

theorem RouteRegistry.endpointInRouterShard_clampStaleThreshold (r : RouteRegistry) (e : Endpoint) :
    r.endpointInRouterShard (r.clampStaleThreshold e) = r.endpointInRouterShard e := by
  unfold RouteRegistry.clampStaleThreshold
  split_ifs <;> rfl

/-- What register's clamp lets through: a threshold that is not zero and not
above the registry's. -/
theorem RouteRegistry.clampStaleThreshold_bounds (r : RouteRegistry) (e : Endpoint)
    (hd : 0 < r.dropletStaleThreshold) :
    (r.clampStaleThreshold e).staleThreshold ≠ 0 ∧
      (r.clampStaleThreshold e).staleThreshold ≤ r.dropletStaleThreshold := by
  unfold RouteRegistry.clampStaleThreshold
  split_ifs with h
  · exact ⟨by simp; omega, le_refl _⟩
  · exact ⟨fun h0 => h (.inr h0), by simp only [not_or, gt_iff_lt, not_lt] at h; exact h.1⟩

/-- A threshold that is not negative comes out of the clamp positive. -/
theorem RouteRegistry.clampStaleThreshold_pos (r : RouteRegistry) (e : Endpoint)
    (hd : 0 < r.dropletStaleThreshold) (he : 0 ≤ e.staleThreshold) :
    0 < (r.clampStaleThreshold e).staleThreshold := by
  have := (r.clampStaleThreshold_bounds e hd).1
  unfold RouteRegistry.clampStaleThreshold at this ⊢
  split_ifs at this ⊢
  · exact hd
  · omega

/-- From an empty registry, `Q` holds of every stored slot when it holds of
every slot a `Register` of the run can store and survives re-stamping. -/
theorem AllStored.run_NewRouteRegistry (c : Config) (calls : List Call) {Q : EndpointElem → Prop}
    (hQ : ∀ x t, Q x → Q { x with updatedAt := t })
    (hreg : ∀ r : RouteRegistry, r.config = c → ∀ uri e now, Call.Register uri e now ∈ calls →
      r.endpointInRouterShard e = true → Q ⟨r.clampStaleThreshold e, now⟩) :
    AllStored Q ((NewRouteRegistry c).run calls).byURI :=
  (RouteRegistry.run_invariant (fun r => r.config = c ∧ AllStored Q r.byURI) calls
    (fun r call hcall ⟨hc, h⟩ => ⟨by rw [RouteRegistry.config_step, hc],
      h.step hQ call fun uri e now he hs => hreg r hc uri e now (he ▸ hcall) hs⟩)
    (NewRouteRegistry c) ⟨RouteRegistry.config_NewRouteRegistry c, fun P q hq => by simp [NewRouteRegistry] at hq⟩).2

/-- With a positive registry threshold, registrations whose thresholds are not
negative store only positive ones. -/
theorem AllStored.pos_of_nonneg (c : Config) (hd : 0 < c.DropletStaleThreshold) (calls : List Call)
    (hnn : ∀ uri e now, Call.Register uri e now ∈ calls → 0 ≤ e.staleThreshold) :
    AllStored (fun x => 0 < x.endpoint.staleThreshold) ((NewRouteRegistry c).run calls).byURI :=
  AllStored.run_NewRouteRegistry c calls (fun _ _ h => h) fun r hc uri e now he _ => by
    have hdr : r.dropletStaleThreshold = c.DropletStaleThreshold :=
      congrArg Config.DropletStaleThreshold hc
    exact r.clampStaleThreshold_pos e (by rw [hdr]; exact hd) (hnn uri e now he)

/-- Whether a call registers an endpoint with a negative threshold. -/
def Call.registersNegative : Call → Bool
  | .Register _ e _ => decide (e.staleThreshold < 0)
  | _ => false

theorem Call.nonneg_of_registersNegative {calls : List Call}
    (h : ∀ c ∈ calls, c.registersNegative = false) :
    ∀ uri e now, Call.Register uri e now ∈ calls → 0 ≤ e.staleThreshold := fun _ _ _ he => by
  simpa [Call.registersNegative] using h _ he

theorem stored_endpoints_clamped (c : Config) (hd : 0 < c.DropletStaleThreshold) (calls : List Call) :
    (∀ P q, ((NewRouteRegistry c).run calls).byURI.findPool P = some q → ∀ x ∈ q.endpoints,
      ((NewRouteRegistry c).run calls).endpointInRouterShard x.endpoint = true ∧
        x.endpoint.staleThreshold ≠ 0 ∧
        x.endpoint.staleThreshold ≤ ((NewRouteRegistry c).run calls).dropletStaleThreshold) ∧
    ((∀ uri e now, Call.Register uri e now ∈ calls → 0 ≤ e.staleThreshold) →
      ∀ P q, ((NewRouteRegistry c).run calls).byURI.findPool P = some q → ∀ x ∈ q.endpoints,
        0 < x.endpoint.staleThreshold) := by
  have hcfg := RouteRegistry.config_run (NewRouteRegistry c) calls
  have hdrop : ((NewRouteRegistry c).run calls).dropletStaleThreshold = c.DropletStaleThreshold :=
    congrArg Config.DropletStaleThreshold hcfg
  refine ⟨?_, AllStored.pos_of_nonneg c hd calls⟩
  rw [RouteRegistry.endpointInRouterShard_congr hcfg, hdrop]
  refine @AllStored.run_NewRouteRegistry c calls (fun x =>
    (NewRouteRegistry c).endpointInRouterShard x.endpoint = true ∧ x.endpoint.staleThreshold ≠ 0 ∧
      x.endpoint.staleThreshold ≤ c.DropletStaleThreshold) (fun _ _ h => h) fun r hc uri e now _ hs => ?_
  have hdr : r.dropletStaleThreshold = c.DropletStaleThreshold := congrArg Config.DropletStaleThreshold hc
  have hb := r.clampStaleThreshold_bounds e (by rw [hdr]; exact hd)
  refine ⟨?_, hb.1, hdr ▸ hb.2⟩
  rw [← RouteRegistry.endpointInRouterShard_congr (hc.trans (RouteRegistry.config_NewRouteRegistry c).symm),
    RouteRegistry.endpointInRouterShard_clampStaleThreshold, hs]

/-- A run of two registrations, one with a threshold above the registry's. -/
def clampSampleRun : List Call :=
  [.Register "a.com".toList (sampleEndpoint "10.0.0.1:8080" 300) 0,
   .Register "a.com".toList (sampleEndpoint "10.0.0.2:8080" 0) 5]

theorem stored_endpoints_clamped_sample :
    0 < (sampleConfig false 0).DropletStaleThreshold ∧
    (∀ P q, ((NewRouteRegistry (sampleConfig false 0)).run clampSampleRun).byURI.findPool P = some q →
      ∀ x ∈ q.endpoints,
        ((NewRouteRegistry (sampleConfig false 0)).run clampSampleRun).endpointInRouterShard x.endpoint = true ∧
        x.endpoint.staleThreshold ≠ 0 ∧
        x.endpoint.staleThreshold ≤ ((NewRouteRegistry (sampleConfig false 0)).run clampSampleRun).dropletStaleThreshold) ∧
    ((∀ uri e now, Call.Register uri e now ∈ clampSampleRun → 0 ≤ e.staleThreshold) →
      ∀ P q, ((NewRouteRegistry (sampleConfig false 0)).run clampSampleRun).byURI.findPool P = some q →
        ∀ x ∈ q.endpoints, 0 < x.endpoint.staleThreshold) :=
  ⟨by decide, stored_endpoints_clamped (sampleConfig false 0) (by decide) clampSampleRun⟩

/-- A registration with a negative threshold: `register`'s clamp leaves it
as it is, and it is stored. -/
theorem register_keeps_negative_threshold :
    (((NewRouteRegistry (sampleConfig false 0)).run
        [.Register "a.com".toList (sampleEndpoint "10.0.0.1:8080" (-1)) 0]).byURI.Find
      (Uri.RouteKey "a.com".toList)).map (fun p => p.endpointList.map (·.staleThreshold)) = some [-1] := by
  decide

/-! ## Route keys are independent -/

/-- Whether a call is on the route key `k`. -/
def Call.onKey (k : Uri) : Call → Bool
  | .Register uri _ _ => decide (k = uri.RouteKey)
  | .Unregister uri _ _ => decide (k = uri.RouteKey)
  | .prune _ _ => false

/-- What a call does to the pool at the route key `k`, its identity aside:
register's put into it, or into a new pool; unregister's remove, and the
delete of a pool it leaves empty when the policy lets the pool go. -/
def keyStep (r : RouteRegistry) (k : Uri) (pool : Option EndpointPool) : Call → Option EndpointPool
  | .Register uri e now =>
    if k = uri.RouteKey ∧ r.endpointInRouterShard e then
      some ((pool.getD (NewPool 0 (r.newPoolOpts uri) now)).Put (r.clampStaleThreshold e) now).1
    else pool
  | .Unregister uri e now =>
    if k = uri.RouteKey ∧ r.endpointInRouterShard e then
      pool.bind fun p =>
        if (p.Remove e).1.IsEmpty ∧ r.emptyPoolRemovable (p.Remove e).1 now then none
        else some (p.Remove e).1
    else pool
  | .prune _ _ => pool

theorem RouteRegistry.newPoolOpts_congr {r r' : RouteRegistry} (h : r.config = r'.config) :
    r.newPoolOpts = r'.newPoolOpts := by
  have h1 : r.dropletStaleThreshold = r'.dropletStaleThreshold := congrArg Config.DropletStaleThreshold h
  have h2 : r.maxConnsPerBackend = r'.maxConnsPerBackend := congrArg Config.BackendsMaxConns h
  have h3 : r.DefaultLoadBalancingAlgorithm = r'.DefaultLoadBalancingAlgorithm :=
    congrArg Config.LoadBalance h
  funext uri
  simp [RouteRegistry.newPoolOpts, h1, h2, h3]

theorem keyStep_congr {r r' : RouteRegistry} (h : r.config = r'.config) : keyStep r = keyStep r' := by
  funext k pool c
  simp only [keyStep, RouteRegistry.clampStaleThreshold_congr h, RouteRegistry.endpointInRouterShard_congr h,
    RouteRegistry.emptyPoolRemovable_congr h, RouteRegistry.newPoolOpts_congr h]

/-- On a route key, a call that is not a tick acts as `keyStep`. -/
theorem Find_step_eraseId (r : RouteRegistry) (c : Call) (hc : c.isTick = false) (u : Uri) :
    ((r.step c).byURI.Find u.RouteKey).map EndpointPool.eraseId =
      keyStep r u.RouteKey ((r.byURI.Find u.RouteKey).map EndpointPool.eraseId) c := by
  cases c with
  | Register uri e now =>
    simp only [RouteRegistry.step, RouteRegistry.Register, keyStep]
    by_cases hs : r.endpointInRouterShard e
    · simp only [hs, if_true, and_true, RouteRegistry.Find_register]
      by_cases hk : u.RouteKey = uri.RouteKey
      · rw [if_pos hk, if_pos hk, hk]
        cases r.byURI.Find uri.RouteKey <;> rfl
      · rw [if_neg hk, if_neg hk]
    · simp [hs]
  | Unregister uri e now =>
    simp only [RouteRegistry.step, RouteRegistry.Unregister, keyStep]
    by_cases hs : r.endpointInRouterShard e
    · simp only [hs, if_true, and_true, RouteRegistry.Find_unregister]
      by_cases hk : u.RouteKey = uri.RouteKey
      · rw [if_pos hk, if_pos hk, hk]
        cases r.byURI.Find uri.RouteKey with
        | none => rfl
        | some p =>
          simp only [Option.map_some', Option.some_bind]
          by_cases hrm : (p.Remove e).1.IsEmpty ∧ r.emptyPoolRemovable (p.Remove e).1 now
          · rw [if_pos hrm, if_pos (show (p.eraseId.Remove e).1.IsEmpty ∧
              r.emptyPoolRemovable (p.eraseId.Remove e).1 now from hrm)]
            rfl
          · rw [if_neg hrm, if_neg (show ¬((p.eraseId.Remove e).1.IsEmpty ∧
              r.emptyPoolRemovable (p.eraseId.Remove e).1 now) from hrm)]
            rfl
      · rw [if_neg hk, if_neg hk]
    · simp [hs]
  | prune => simp [Call.isTick] at hc

/-- Without ticks, the pool a route key shows after a run is the fold of
`keyStep` over the run. -/
theorem Find_run_eraseId (r : RouteRegistry) (calls : List Call) (hno : ∀ c ∈ calls, c.isTick = false)
    (u : Uri) :
    ((r.run calls).byURI.Find u.RouteKey).map EndpointPool.eraseId =
      calls.foldl (keyStep r u.RouteKey) ((r.byURI.Find u.RouteKey).map EndpointPool.eraseId) := by
  induction calls generalizing r with
  | nil => rfl
  | cons c cs ih =>
    rw [RouteRegistry.run_cons, ih _ fun c' hc' => hno c' (List.mem_cons_of_mem _ hc'),
      Find_step_eraseId r c (hno c (List.mem_cons_self _ _)), keyStep_congr (RouteRegistry.config_step r c),
      List.foldl_cons]

/-- A call on another key leaves the key's pool alone. -/
theorem keyStep_of_not_onKey (r : RouteRegistry) (k : Uri) (pool : Option EndpointPool) (c : Call)
    (h : c.onKey k = false) : keyStep r k pool c = pool := by
  cases c <;> simp_all [keyStep, Call.onKey]

theorem foldl_keyStep_filter (r : RouteRegistry) (k : Uri) :
    ∀ (calls : List Call) (pool : Option EndpointPool),
      calls.foldl (keyStep r k) pool = (calls.filter (Call.onKey k)).foldl (keyStep r k) pool
  | [], _ => rfl
  | c :: cs, pool => by
    by_cases h : c.onKey k
    · simp [List.filter_cons, h, foldl_keyStep_filter r k cs]
    · simp [List.filter_cons, h, keyStep_of_not_onKey r k pool c (Bool.eq_false_iff.mpr h),
        foldl_keyStep_filter r k cs]

/-- A call of the fold for the route key `k`: a `Register` or `Unregister` on
`k` of an endpoint in the router's shard. -/
def Call.relevant (r : RouteRegistry) (k : Uri) : Call → Bool
  | .Register uri e _ => decide (k = uri.RouteKey) && r.endpointInRouterShard e
  | .Unregister uri e _ => decide (k = uri.RouteKey) && r.endpointInRouterShard e
  | .prune _ _ => false

/-- What a call does to the endpoints of its pool: `Put` of the endpoint
after register's clamp, or `Remove`. -/
def Call.applyEndpoints (r : RouteRegistry) (es : List EndpointElem) : Call → List EndpointElem
  | .Register _ e now => putElems (r.clampStaleThreshold e) now es
  | .Unregister _ e _ => es.filter (·.endpoint.identity ≠ e.identity)
  | .prune _ _ => es

/-- The relevant calls on the route key `k`, in order, through `Put` and
`Remove`, from an empty pool. -/
def keyFold (r : RouteRegistry) (k : Uri) (calls : List Call) : List EndpointElem :=
  (calls.filter (Call.relevant r k)).foldl (Call.applyEndpoints r) []

/-- One call's effect on the endpoints of the key's pool: `Put` or `Remove`
when the call is relevant; an empty pool that is deleted had none. -/
theorem endpoints_keyStep (r : RouteRegistry) (k : Uri) (pool : Option EndpointPool) (c : Call) :
    ((keyStep r k pool c).map (·.endpoints)).getD [] =
      if c.relevant r k then c.applyEndpoints r ((pool.map (·.endpoints)).getD [])
      else (pool.map (·.endpoints)).getD [] := by
  cases c with
  | Register uri e now =>
    by_cases h : k = uri.RouteKey ∧ r.endpointInRouterShard e
    · have hrel : Call.relevant r k (.Register uri e now) = true := by simp [Call.relevant, h.1, h.2]
      rw [keyStep, if_pos h, hrel, if_pos rfl]
      cases pool <;> simp [Call.applyEndpoints]
    · have hrel : Call.relevant r k (.Register uri e now) = false :=
        Bool.eq_false_iff.mpr fun h' => h (by simpa [Call.relevant] using h')
      rw [keyStep, if_neg h, hrel]
      rfl
  | Unregister uri e now =>
    by_cases h : k = uri.RouteKey ∧ r.endpointInRouterShard e
    · have hrel : Call.relevant r k (.Unregister uri e now) = true := by simp [Call.relevant, h.1, h.2]
      rw [keyStep, if_pos h, hrel, if_pos rfl]
      cases pool with
      | none => rfl
      | some p =>
        simp only [Option.some_bind]
        split_ifs with hrm
        · exact ((EndpointPool.IsEmpty_iff _).mp hrm.1).symm
        · rfl
    · have hrel : Call.relevant r k (.Unregister uri e now) = false :=
        Bool.eq_false_iff.mpr fun h' => h (by simpa [Call.relevant] using h')
      rw [keyStep, if_neg h, hrel]
      rfl
  | prune => rfl

/-- The endpoints of the `keyStep` fold are the fold of `Put` and `Remove`
over the relevant calls. -/
theorem endpoints_foldl_keyStep (r : RouteRegistry) (k : Uri) :
    ∀ (calls : List Call) (pool : Option EndpointPool),
      ((calls.foldl (keyStep r k) pool).map (·.endpoints)).getD [] =
        (calls.filter (Call.relevant r k)).foldl (Call.applyEndpoints r) ((pool.map (·.endpoints)).getD [])
  | [], _ => rfl
  | c :: cs, pool => by
    rw [List.foldl_cons, endpoints_foldl_keyStep r k cs, endpoints_keyStep, List.filter_cons]
    split_ifs <;> rfl

/-- Under the default policy the `keyStep` fold never holds an empty pool. -/
theorem foldl_keyStep_not_IsEmpty (r : RouteRegistry) (k : Uri)
    (hpol : r.EmptyPoolResponseCode503 = false ∨ r.EmptyPoolTimeout = 0) :
    ∀ (calls : List Call) (pool : Option EndpointPool), pool.all (!·.IsEmpty) →
      (calls.foldl (keyStep r k) pool).all (!·.IsEmpty)
  | [], _, h => h
  | c :: cs, pool, h => by
    refine foldl_keyStep_not_IsEmpty r k hpol cs _ ?_
    have hrm : ∀ q now, r.emptyPoolRemovable q now = true := by
      intro q now
      rcases hpol with hp | hp <;> simp [RouteRegistry.emptyPoolRemovable, hp]
    cases c with
    | Register uri e now =>
      simp only [keyStep]
      split_ifs
      · simp [EndpointPool.Put_not_IsEmpty]
      · exact h
    | Unregister uri e now =>
      simp only [keyStep]
      split_ifs
      · cases pool with
        | none => rfl
        | some p =>
          simp only [Option.some_bind, hrm, and_true]
          by_cases he : (p.Remove e).1.IsEmpty <;> simp [he]
      · exact h
    | prune => exact h

theorem run_determined_key_by_key (c : Config) (calls : List Call)
    (hno : ∀ call ∈ calls, call.isTick = false) :
    (∀ u : Uri, ((((NewRouteRegistry c).run calls).byURI.Find u.RouteKey).map (·.endpoints)).getD [] =
      keyFold (NewRouteRegistry c) u.RouteKey calls) ∧
    ((c.EmptyPoolResponseCode503 = false ∨ c.EmptyPoolTimeout = 0) → ∀ u : Uri,
      (((NewRouteRegistry c).run calls).byURI.Find u.RouteKey).isSome ↔
        keyFold (NewRouteRegistry c) u.RouteKey calls ≠ []) ∧
    (∀ calls' : List Call, (∀ call ∈ calls', call.isTick = false) →
      (∀ u : Uri, calls'.filter (Call.onKey u.RouteKey) = calls.filter (Call.onKey u.RouteKey)) →
      ∀ u : Uri, (((NewRouteRegistry c).run calls').byURI.Find u.RouteKey).map EndpointPool.eraseId =
        (((NewRouteRegistry c).run calls).byURI.Find u.RouteKey).map EndpointPool.eraseId) := by
  have hempty : ∀ u : Uri, (NewRouteRegistry c).byURI.Find u.RouteKey = none := fun u => by
    simp [NewRouteRegistry, Find]
  have hfold : ∀ cs : List Call, (∀ call ∈ cs, call.isTick = false) → ∀ u : Uri,
      (((NewRouteRegistry c).run cs).byURI.Find u.RouteKey).map EndpointPool.eraseId =
        cs.foldl (keyStep (NewRouteRegistry c) u.RouteKey) none := fun cs hcs u => by
    rw [Find_run_eraseId _ cs hcs u, hempty]
    rfl
  have hends : ∀ u : Uri, ((((NewRouteRegistry c).run calls).byURI.Find u.RouteKey).map (·.endpoints)).getD [] =
      keyFold (NewRouteRegistry c) u.RouteKey calls := fun u => by
    have h := congrArg (fun p => (p.map (·.endpoints)).getD []) (hfold calls hno u)
    simp only [Option.map_map, Function.comp_def, EndpointPool.endpoints_eraseId] at h
    rw [h, endpoints_foldl_keyStep]
    rfl
  refine ⟨hends, fun hpol u => ?_, fun calls' hno' hord u => ?_⟩
  · have hne := foldl_keyStep_not_IsEmpty (NewRouteRegistry c) u.RouteKey hpol calls none rfl
    rw [← hends u]
    have h := hfold calls hno u
    cases hf : ((NewRouteRegistry c).run calls).byURI.Find u.RouteKey with
    | none => simp
    | some p =>
      rw [hf] at h
      rw [← h] at hne
      simpa [EndpointPool.IsEmpty] using hne
  · rw [hfold calls' hno' u, hfold calls hno u, foldl_keyStep_filter, hord, ← foldl_keyStep_filter]

/-- Registrations on two keys, then an unregistration on the first. -/
def keySampleRun : List Call :=
  [.Register "a.com".toList (sampleEndpoint "10.0.0.1:8080" 10) 0,
   .Register "b.com".toList (sampleEndpoint "10.0.0.2:8080" 10) 1,
   .Unregister "a.com".toList (sampleEndpoint "10.0.0.1:8080" 10) 2]

theorem run_determined_key_by_key_sample :
    (∀ call ∈ keySampleRun, call.isTick = false) ∧
    (∀ u : Uri, ((((NewRouteRegistry (sampleConfig false 0)).run keySampleRun).byURI.Find
        u.RouteKey).map (·.endpoints)).getD [] =
      keyFold (NewRouteRegistry (sampleConfig false 0)) u.RouteKey keySampleRun) ∧
    (((sampleConfig false 0).EmptyPoolResponseCode503 = false ∨ (sampleConfig false 0).EmptyPoolTimeout = 0) →
      ∀ u : Uri, (((NewRouteRegistry (sampleConfig false 0)).run keySampleRun).byURI.Find u.RouteKey).isSome ↔
        keyFold (NewRouteRegistry (sampleConfig false 0)) u.RouteKey keySampleRun ≠ []) ∧
    (∀ calls' : List Call, (∀ call ∈ calls', call.isTick = false) →
      (∀ u : Uri, calls'.filter (Call.onKey u.RouteKey) = keySampleRun.filter (Call.onKey u.RouteKey)) →
      ∀ u : Uri, (((NewRouteRegistry (sampleConfig false 0)).run calls').byURI.Find u.RouteKey).map
          EndpointPool.eraseId =
        (((NewRouteRegistry (sampleConfig false 0)).run keySampleRun).byURI.Find u.RouteKey).map
          EndpointPool.eraseId) :=
  ⟨by decide, run_determined_key_by_key (sampleConfig false 0) keySampleRun (by decide)⟩

end Gorouter.Registry
