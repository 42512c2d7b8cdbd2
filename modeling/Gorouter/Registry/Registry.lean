import Gorouter.Container.WalkSpec

/-!
# Registry — RouteRegistry

`registry.go`'s `RouteRegistry`: the trie of pools by route key and the
methods that read and change it, each as it runs when calls come one at a
time (the lock steps of `register` are modelled in `Registry.Concurrent`).
The clock is an argument: `now` is the call's `time.Now()`, and durations are
integers in the same unit.

A Go pool is a pointer shared by its trie node and every reader. Here pools
are values and the pointer's identity is the pool's `id`: the registry hands
out `nextPoolId` to each `NewPool`, and every pool the trie holds has a
smaller id (`byURI_ids`), so a pool the registry creates is a new object. A
mutation through the pointer that `register` or `unregister` holds is written
back at the route key the pool was found or inserted under, which is where
that pointer sits in the trie while the call holds the lock.

The reporter, the logger and the metrics are left out: the methods only write
to them, and nothing the registry reads comes back from them.
-/

namespace Gorouter.Registry

open Gorouter.Route Gorouter.Container Gorouter.Container.Trie

/-- Go's `PruneStatus`; the zero value is `CONNECTED`. -/
inductive PruneStatus where
  | CONNECTED
  | DISCONNECTED
  deriving DecidableEq, Repr

/-- The sharding modes `endpointInRouterShard` compares with (`config.SHARD_*`). -/
inductive ShardingMode where
  | SHARD_ALL
  | SHARD_SEGMENTS
  | SHARD_SHARED_AND_SEGMENTS
  deriving DecidableEq, Repr

/-- Every pool of the trie has an id below `n`: it was allocated before `n`. -/
def IdsBelow (t : Trie) (n : Nat) : Prop :=
  ∀ P q, t.findPool P = some q → q.id < n

theorem IdsBelow.empty (n : Nat) : IdsBelow Trie.empty n := by
  simp [IdsBelow]

theorem IdsBelow.mono {t : Trie} {n m : Nat} (h : IdsBelow t n) (hnm : n ≤ m) : IdsBelow t m :=
  fun P q hq => Nat.lt_of_lt_of_le (h P q hq) hnm

theorem IdsBelow.insertPath {t : Trie} {n : Nat} (h : IdsBelow t n) (path : List Seg)
    {v : EndpointPool} (hv : v.id < n) : IdsBelow (t.insertPath path v) n := by
  intro P q hq
  rw [findPool_insertPath] at hq
  split_ifs at hq
  · exact Option.some.inj hq ▸ hv
  · exact h P q hq

theorem IdsBelow.deletePath {t : Trie} {n : Nat} (h : IdsBelow t n) (path : List Seg) :
    IdsBelow (t.deletePath path) n := by
  intro P q hq
  rw [findPool_deletePath] at hq
  split_ifs at hq
  exact h P q hq

/-- A walk whose callback keeps each pool's identity allocates nothing. -/
theorem IdsBelow.EachNodeWithPool {t : Trie} {n : Nat} (ht : t.WF) (h : IdsBelow t n)
    (f : EndpointPool → EndpointPool) (hf : ∀ q, (f q).id = q.id) (snipIf : EndpointPool → Bool) :
    IdsBelow (t.EachNodeWithPool (poolCallback f snipIf)).1 n := by
  intro P q hq
  rw [EachNodeWithPool_eq f snipIf ht] at hq
  rcases findPool_walkRoot f snipIf ht P with h' | ⟨h', -⟩
  · rw [h'] at hq
    obtain ⟨q', hq', rfl⟩ := Option.map_eq_some'.mp hq
    exact (hf q').symm ▸ h P q' hq'
  · simp [h'] at hq

/-- Go's `RouteRegistry`, with the fields its modelled methods read. -/
structure RouteRegistry where
  byURI : Trie
  pruningStatus : PruneStatus
  dropletStaleThreshold : Int
  timeOfLastUpdate : Int
  routingTableShardingMode : ShardingMode
  isolationSegments : List String
  maxConnsPerBackend : Int
  EmptyPoolTimeout : Int
  EmptyPoolResponseCode503 : Bool
  DefaultLoadBalancingAlgorithm : String
  nextPoolId : Nat
  byURI_wf : byURI.WF
  byURI_ids : IdsBelow byURI nextPoolId

/-- The fields of Go's `config.Config` that `NewRouteRegistry` reads
(`BackendsMaxConns` is `c.Backends.MaxConns`). -/
structure Config where
  DropletStaleThreshold : Int
  RoutingTableShardingMode : ShardingMode
  IsolationSegments : List String
  BackendsMaxConns : Int
  EmptyPoolTimeout : Int
  EmptyPoolResponseCode503 : Bool
  LoadBalance : String

/-- Go's `NewRouteRegistry`: an empty trie, `pruningStatus` at its zero value
and no update yet (time zero). -/
def NewRouteRegistry (c : Config) : RouteRegistry where
  byURI := Trie.empty
  pruningStatus := .CONNECTED
  dropletStaleThreshold := c.DropletStaleThreshold
  timeOfLastUpdate := 0
  routingTableShardingMode := c.RoutingTableShardingMode
  isolationSegments := c.IsolationSegments
  maxConnsPerBackend := c.BackendsMaxConns
  EmptyPoolTimeout := c.EmptyPoolTimeout
  EmptyPoolResponseCode503 := c.EmptyPoolResponseCode503
  DefaultLoadBalancingAlgorithm := c.LoadBalance
  nextPoolId := 0
  byURI_wf := WF_empty
  byURI_ids := IdsBelow.empty 0

/-- `strings.TrimPrefix(s, "/")`. -/
def trimPrefixSlash : List Char → List Char
  | '/' :: s => s
  | s => s

/-- Go's `splitHostAndContextPath`: what comes before the first `/` of the
uri with one leading `/` trimmed, and `/` followed by what comes after it,
cut at the first `?`. -/
def splitHostAndContextPath (uri : Uri) : List Char × List Char :=
  let trimmedUri := trimPrefixSlash uri
  let contextPath := '/' :: (Uri.path trimmedUri).drop 1
  (Uri.host trimmedUri, contextPath.takeWhile (· ≠ '?'))

namespace RouteRegistry

/-! ## Register -/

/-- Go's `endpointInRouterShard`. -/
def endpointInRouterShard (r : RouteRegistry) (endpoint : Endpoint) : Bool :=
  if r.routingTableShardingMode = .SHARD_ALL then true
  else if r.routingTableShardingMode = .SHARD_SHARED_AND_SEGMENTS ∧
      endpoint.isolationSegment = "" then true
  else r.isolationSegments.any fun v => endpoint.isolationSegment = v

/-- The clamp in `register`: a threshold above the registry's, or zero,
becomes the registry's. -/
def clampStaleThreshold (r : RouteRegistry) (endpoint : Endpoint) : Endpoint :=
  if endpoint.staleThreshold > r.dropletStaleThreshold ∨ endpoint.staleThreshold = 0 then
    { endpoint with staleThreshold := r.dropletStaleThreshold }
  else endpoint

/-- The options of the pool `insertRouteKey` creates for `uri`. -/
def newPoolOpts (r : RouteRegistry) (uri : Uri) : PoolOpts where
  retryAfterFailure := r.dropletStaleThreshold.tdiv 4
  host := (splitHostAndContextPath uri).1
  contextPath := (splitHostAndContextPath uri).2
  maxConnsPerBackend := r.maxConnsPerBackend
  loadBalancingAlgorithm := r.DefaultLoadBalancingAlgorithm

/-- Go's `insertRouteKey`, under the write lock: the pool found at `routekey`
on the double check, or a new pool inserted there. -/
def insertRouteKey (r : RouteRegistry) (routekey uri : Uri) (now : Int) :
    RouteRegistry × EndpointPool :=
  match r.byURI.Find routekey with
  | some pool => (r, pool)
  | none =>
    let pool := NewPool r.nextPoolId (r.newPoolOpts uri) now
    ({ r with
        byURI := r.byURI.Insert routekey pool
        nextPoolId := r.nextPoolId + 1
        byURI_wf := r.byURI_wf.insertPath _ _
        byURI_ids := (r.byURI_ids.mono (Nat.le_succ _)).insertPath _ (Nat.lt_succ_self _) },
     pool)

/-- The pool `register` puts into: the one `Find` returns under the read
lock, or else the one `insertRouteKey` returns. -/
def registerPool (r : RouteRegistry) (routekey uri : Uri) (now : Int) :
    RouteRegistry × EndpointPool :=
  match r.byURI.Find routekey with
  | some pool => (r, pool)
  | none => r.insertRouteKey routekey uri now

theorem insertRouteKey_id_lt (r : RouteRegistry) (routekey uri : Uri) (now : Int) :
    (r.insertRouteKey routekey uri now).2.id < (r.insertRouteKey routekey uri now).1.nextPoolId := by
  unfold insertRouteKey
  split
  · exact r.byURI_ids _ _ ‹_›
  · exact Nat.lt_succ_self _

theorem registerPool_id_lt (r : RouteRegistry) (routekey uri : Uri) (now : Int) :
    (r.registerPool routekey uri now).2.id < (r.registerPool routekey uri now).1.nextPoolId := by
  unfold registerPool
  split
  · exact r.byURI_ids _ _ ‹_›
  · exact insertRouteKey_id_lt r routekey uri now

/-- The end of `register` on a registry holding `pool` at `routekey`: the
clamp, `pool.Put`, written back at `routekey`, and `SetTimeOfLastUpdate`. -/
def putAt (r : RouteRegistry) (routekey : Uri) (pool : EndpointPool) (hpool : pool.id < r.nextPoolId)
    (endpoint : Endpoint) (now : Int) : RouteRegistry × PoolPutResult :=
  let put := pool.Put (r.clampStaleThreshold endpoint) now
  ({ r with
      byURI := r.byURI.Insert routekey put.1
      timeOfLastUpdate := now
      byURI_wf := r.byURI_wf.insertPath _ _
      byURI_ids := r.byURI_ids.insertPath _ hpool },
   put.2)

/-- Go's `register`. -/
def register (r : RouteRegistry) (uri : Uri) (endpoint : Endpoint) (now : Int) :
    RouteRegistry × PoolPutResult :=
  let routekey := uri.RouteKey
  let found := r.registerPool routekey uri now
  found.1.putAt routekey found.2 (registerPool_id_lt r routekey uri now) endpoint now

/-- Go's `Register`: endpoints outside the router's shard are ignored. -/
def Register (r : RouteRegistry) (uri : Uri) (endpoint : Endpoint) (now : Int) : RouteRegistry :=
  if r.endpointInRouterShard endpoint then (r.register uri endpoint now).1 else r

/-! ## Unregister -/

/-- The empty-pool policy of `unregister` and `pruneStaleDroplets`: with the
503 response and a timeout configured, an empty pool may go only once more
than the timeout has passed since its last update; otherwise at once. -/
def emptyPoolRemovable (r : RouteRegistry) (pool : EndpointPool) (now : Int) : Bool :=
  if r.EmptyPoolResponseCode503 ∧ r.EmptyPoolTimeout > 0 then
    decide (now - pool.LastUpdated > r.EmptyPoolTimeout)
  else true

/-- Go's `unregister`: the endpoint removed from the pool at the route key,
and the route deleted when that leaves the pool empty and the policy lets it
go (Go's nested `if pool.IsEmpty() { if ... }`). -/
def unregister (r : RouteRegistry) (uri : Uri) (endpoint : Endpoint) (now : Int) : RouteRegistry :=
  let uri := uri.RouteKey
  match h : r.byURI.Find uri with
  | none => r
  | some found =>
    let pool := (found.Remove endpoint).1
    let hid : pool.id < r.nextPoolId := r.byURI_ids (segments uri) found h
    if pool.IsEmpty ∧ r.emptyPoolRemovable pool now then
      { r with
        byURI := (r.byURI.Insert uri pool).Delete uri
        byURI_wf := (r.byURI_wf.insertPath _ _).deletePath _
        byURI_ids := (r.byURI_ids.insertPath _ hid).deletePath _ }
    else
      { r with
        byURI := r.byURI.Insert uri pool
        byURI_wf := r.byURI_wf.insertPath _ _
        byURI_ids := r.byURI_ids.insertPath _ hid }

/-- Go's `Unregister`: endpoints outside the router's shard are ignored. -/
def Unregister (r : RouteRegistry) (uri : Uri) (endpoint : Endpoint) (now : Int) : RouteRegistry :=
  if r.endpointInRouterShard endpoint then r.unregister uri endpoint now else r

/-! ## Lookup -/

/-- The loop of `lookup`:
`for pool == nil && err == nil { uri, err = uri.NextWildcard(); pool = r.byURI.MatchUri(uri) }`.
Each round drops a label of the key or sets the error, so it ends. -/
def lookupLoop (t : Trie) (uri : Uri) (pool : Option EndpointPool) (err : Bool) :
    Option EndpointPool :=
  if h : pool.isNone ∧ err = false then
    lookupLoop t uri.NextWildcard.1 (t.MatchUri uri.NextWildcard.1) uri.NextWildcard.2
  else pool
termination_by uri.wildcardDepth + if err then 0 else 1
decreasing_by
  obtain ⟨-, rfl⟩ := h
  rcases hw : uri.NextWildcard with ⟨u', _ | _⟩
  · have := Uri.wildcardDepth_lt hw
    simp only [Bool.false_eq_true, if_false]
    omega
  · obtain rfl := Uri.NextWildcard_err hw
    simp

/-- Go's `lookup`: the deepest pool along the route key, then along each
wildcard key in turn. -/
def lookup (r : RouteRegistry) (uri : Uri) : Option EndpointPool :=
  let uri := uri.RouteKey
  lookupLoop r.byURI uri (r.byURI.MatchUri uri) false

/-- Go's `Lookup`; the lookup-time metric is left out. -/
def Lookup (r : RouteRegistry) (uri : Uri) : Option EndpointPool := r.lookup uri

/-- The pool `LookupWithAppInstance` and `LookupWithProcessInstance` build:
a new pool, with no retry delay, copying `p`'s host, context path, connection
limit and balancing algorithm. -/
def surgicalPool (r : RouteRegistry) (p : EndpointPool) (now : Int) : EndpointPool :=
  NewPool r.nextPoolId
    { retryAfterFailure := 0
      host := p.host
      contextPath := p.contextPath
      maxConnsPerBackend := p.maxConnsPerBackend
      loadBalancingAlgorithm := p.loadBalancingAlgorithm } now

/-- Go's `LookupWithAppInstance`: for each endpoint of `Lookup(uri)` with the
application id and instance index, a new pool holding that endpoint alone; the
last one wins. -/
def LookupWithAppInstance (r : RouteRegistry) (uri : Uri) (appID appIndex : String) (now : Int) :
    Option EndpointPool :=
  let uri := uri.RouteKey
  match r.Lookup uri with
  | none => none
  | some p =>
    p.endpointList.foldl (fun surgical e =>
      if e.applicationId = appID ∧ e.privateInstanceIndex = appIndex then
        some ((r.surgicalPool p now).Put e now).1
      else surgical) none

/-- The callback `pruneStaleDroplets` walks the trie with: `PruneEndpoints`,
then `Snip` when the empty-pool policy lets the pool go. -/
def pruneCallback (r : RouteRegistry) (now : Int) : Trie → List Seg → Trie :=
  poolCallback (fun pool => (pool.PruneEndpoints now).1) (r.emptyPoolRemovable · now)

/-- The walk of a prune tick: the trie it leaves, and the paths of the pools
it called `PruneEndpoints` on, in order. -/
def pruneWalk (r : RouteRegistry) (now : Int) : Trie × List (List Seg) :=
  r.byURI.EachNodeWithPool (r.pruneCallback now)

/-- Go's `freshenRoutes`: every pool, and each of its endpoints, marked
updated at `now`. -/
def freshenRoutes (r : RouteRegistry) (now : Int) : RouteRegistry :=
  { r with
    byURI := (r.byURI.EachNodeWithPool (poolCallback (·.MarkUpdated now) fun _ => false)).1
    byURI_wf := r.byURI_wf.EachNodeWithPool _ _
    byURI_ids := r.byURI_ids.EachNodeWithPool r.byURI_wf (·.MarkUpdated now) (fun _ => rfl) _ }

/-- The start of a tick that is not suspended: `freshenRoutes` when the last
tick found the source disconnected. -/
def tickStart (r : RouteRegistry) (now : Int) : RouteRegistry :=
  if r.pruningStatus = .DISCONNECTED then r.freshenRoutes now else r

/-- Go's `pruneStaleDroplets`; `suspendPruning` is what the registry's
`suspendPruning()` returns at this tick. -/
def pruneStaleDroplets (r : RouteRegistry) (suspendPruning : Bool) (now : Int) : RouteRegistry :=
  if suspendPruning then { r with pruningStatus := .DISCONNECTED }
  else
    let r := { r.tickStart now with pruningStatus := .CONNECTED }
    { r with
      byURI := (r.pruneWalk now).1
      byURI_wf := r.byURI_wf.EachNodeWithPool _ _
      byURI_ids := r.byURI_ids.EachNodeWithPool r.byURI_wf (fun pool => (pool.PruneEndpoints now).1)
        (fun _ => rfl) _ }

end RouteRegistry

/-! ## Runs -/

/-- The calls that change the registry: `Register`, `Unregister` and a prune
tick with the result of `suspendPruning()`. -/
inductive Call where
  | Register (uri : Uri) (endpoint : Endpoint) (now : Int)
  | Unregister (uri : Uri) (endpoint : Endpoint) (now : Int)
  | prune (suspendPruning : Bool) (now : Int)

/-- Whether a call is a prune tick. -/
def Call.isTick : Call → Bool
  | .prune _ _ => true
  | _ => false

/-- One call. -/
def RouteRegistry.step (r : RouteRegistry) : Call → RouteRegistry
  | .Register uri e now => r.Register uri e now
  | .Unregister uri e now => r.Unregister uri e now
  | .prune s now => r.pruneStaleDroplets s now

/-- The calls, one at a time. -/
def RouteRegistry.run (r : RouteRegistry) (calls : List Call) : RouteRegistry :=
  calls.foldl RouteRegistry.step r

@[simp] theorem RouteRegistry.run_nil (r : RouteRegistry) : r.run [] = r := rfl

@[simp] theorem RouteRegistry.run_append (r : RouteRegistry) (xs ys : List Call) :
    r.run (xs ++ ys) = (r.run xs).run ys := List.foldl_append _ _ _ _

@[simp] theorem RouteRegistry.run_cons (r : RouteRegistry) (c : Call) (cs : List Call) :
    r.run (c :: cs) = (r.step c).run cs := rfl

namespace RouteRegistry

/-! ## What each call does

One lemma per method, stated on `findPool` at every trie path, so that later
proofs never unfold a method. -/

/-- The registry's configuration: the fields no method writes. -/
def config (r : RouteRegistry) : Config where
  DropletStaleThreshold := r.dropletStaleThreshold
  RoutingTableShardingMode := r.routingTableShardingMode
  IsolationSegments := r.isolationSegments
  BackendsMaxConns := r.maxConnsPerBackend
  EmptyPoolTimeout := r.EmptyPoolTimeout
  EmptyPoolResponseCode503 := r.EmptyPoolResponseCode503
  LoadBalance := r.DefaultLoadBalancingAlgorithm

@[simp] theorem config_NewRouteRegistry (c : Config) : (NewRouteRegistry c).config = c := rfl

theorem clampStaleThreshold_congr {r r' : RouteRegistry} (h : r.config = r'.config) :
    r.clampStaleThreshold = r'.clampStaleThreshold := by
  have : r.dropletStaleThreshold = r'.dropletStaleThreshold := congrArg Config.DropletStaleThreshold h
  funext e
  simp [clampStaleThreshold, this]

/-- The clamp changes the threshold only, never the identity. -/
theorem identity_clampStaleThreshold (r : RouteRegistry) (e : Endpoint) :
    (r.clampStaleThreshold e).identity = e.identity := by
  unfold clampStaleThreshold; split_ifs <;> rfl

/-- The clamp leaves the algorithm the endpoint names. -/
@[simp] theorem loadBalancingAlgorithm_clampStaleThreshold (r : RouteRegistry) (e : Endpoint) :
    (r.clampStaleThreshold e).loadBalancingAlgorithm = e.loadBalancingAlgorithm := by
  unfold clampStaleThreshold; split_ifs <;> rfl

theorem overrideLoadBalancingAlgorithm_clampStaleThreshold (r : RouteRegistry) (e : Endpoint)
    (alg : String) :
    (r.clampStaleThreshold e).overrideLoadBalancingAlgorithm alg = e.overrideLoadBalancingAlgorithm alg := by
  simp only [Endpoint.overrideLoadBalancingAlgorithm, loadBalancingAlgorithm_clampStaleThreshold]

theorem endpointInRouterShard_congr {r r' : RouteRegistry} (h : r.config = r'.config) :
    r.endpointInRouterShard = r'.endpointInRouterShard := by
  have h1 : r.routingTableShardingMode = r'.routingTableShardingMode :=
    congrArg Config.RoutingTableShardingMode h
  have h2 : r.isolationSegments = r'.isolationSegments := congrArg Config.IsolationSegments h
  funext e
  simp [endpointInRouterShard, h1, h2]

theorem emptyPoolRemovable_congr {r r' : RouteRegistry} (h : r.config = r'.config) :
    r.emptyPoolRemovable = r'.emptyPoolRemovable := by
  have h1 : r.EmptyPoolResponseCode503 = r'.EmptyPoolResponseCode503 :=
    congrArg Config.EmptyPoolResponseCode503 h
  have h2 : r.EmptyPoolTimeout = r'.EmptyPoolTimeout := congrArg Config.EmptyPoolTimeout h
  funext pool now
  simp [emptyPoolRemovable, h1, h2]

/-- Sequentially, the read-locked `Find` of `register` only repeats the
double check of `insertRouteKey`. -/
theorem registerPool_eq (r : RouteRegistry) (routekey uri : Uri) (now : Int) :
    r.registerPool routekey uri now = r.insertRouteKey routekey uri now := by
  unfold registerPool
  split
  · simp [insertRouteKey, *]
  · rfl

@[simp] theorem config_insertRouteKey (r : RouteRegistry) (routekey uri : Uri) (now : Int) :
    (r.insertRouteKey routekey uri now).1.config = r.config := by
  unfold insertRouteKey; split <;> rfl

@[simp] theorem pruningStatus_insertRouteKey (r : RouteRegistry) (routekey uri : Uri) (now : Int) :
    (r.insertRouteKey routekey uri now).1.pruningStatus = r.pruningStatus := by
  unfold insertRouteKey; split <;> rfl

/-- `insertRouteKey` returns the pool at the key, or a new one it inserted
there. -/
theorem insertRouteKey_eq (r : RouteRegistry) (routekey uri : Uri) (now : Int) :
    (r.insertRouteKey routekey uri now).2 =
      (r.byURI.Find routekey).getD (NewPool r.nextPoolId (r.newPoolOpts uri) now) ∧
    ∀ P, (r.insertRouteKey routekey uri now).1.byURI.findPool P =
      if P = segments routekey then some (r.insertRouteKey routekey uri now).2
      else r.byURI.findPool P := by
  unfold insertRouteKey
  split
  · rename_i pool h
    refine ⟨by simp [h], fun P => ?_⟩
    split_ifs with hP
    · subst hP; exact h
    · rfl
  · exact ⟨by simp [*], fun P => findPool_insertPath _ _ _ _⟩

@[simp] theorem config_register (r : RouteRegistry) (uri : Uri) (e : Endpoint) (now : Int) :
    (r.register uri e now).1.config = r.config := by
  simp only [register, registerPool_eq]
  exact config_insertRouteKey r _ uri now

@[simp] theorem pruningStatus_register (r : RouteRegistry) (uri : Uri) (e : Endpoint) (now : Int) :
    (r.register uri e now).1.pruningStatus = r.pruningStatus := by
  simp only [register, registerPool_eq]
  exact pruningStatus_insertRouteKey r _ uri now

/-- `register` puts the clamped endpoint into the pool at the route key, a
new one when there was none, and changes no other path. -/
theorem findPool_register (r : RouteRegistry) (uri : Uri) (e : Endpoint) (now : Int)
    (P : List Seg) :
    (r.register uri e now).1.byURI.findPool P =
      if P = segments uri.RouteKey then
        some (((r.byURI.Find uri.RouteKey).getD (NewPool r.nextPoolId (r.newPoolOpts uri) now)).Put
          (r.clampStaleThreshold e) now).1
      else r.byURI.findPool P := by
  obtain ⟨hpool, hfind⟩ := insertRouteKey_eq r uri.RouteKey uri now
  have hclamp := clampStaleThreshold_congr (config_insertRouteKey r uri.RouteKey uri now)
  simp only [register, registerPool_eq, putAt, Trie.Insert, findPool_insertPath, hfind, hpool, hclamp]
  split_ifs <;> rfl

/-- `putAt` files the pool with the clamped endpoint put in at the route key
and changes no other path. -/
theorem findPool_putAt (r : RouteRegistry) (routekey : Uri) (pool : EndpointPool)
    (hpool : pool.id < r.nextPoolId) (e : Endpoint) (now : Int) (P : List Seg) :
    (r.putAt routekey pool hpool e now).1.byURI.findPool P =
      if P = segments routekey then some (pool.Put (r.clampStaleThreshold e) now).1
      else r.byURI.findPool P :=
  findPool_insertPath _ _ _ _

@[simp] theorem config_unregister (r : RouteRegistry) (uri : Uri) (e : Endpoint) (now : Int) :
    (r.unregister uri e now).config = r.config := by
  unfold unregister; dsimp only; split
  · rfl
  · split_ifs <;> rfl

@[simp] theorem pruningStatus_unregister (r : RouteRegistry) (uri : Uri) (e : Endpoint) (now : Int) :
    (r.unregister uri e now).pruningStatus = r.pruningStatus := by
  unfold unregister; dsimp only; split
  · rfl
  · split_ifs <;> rfl

/-- `unregister` removes the endpoint from the pool at the route key, and
drops that pool when it is left empty and the policy lets it go; no other
path changes. -/
theorem findPool_unregister (r : RouteRegistry) (uri : Uri) (e : Endpoint) (now : Int)
    (P : List Seg) :
    (r.unregister uri e now).byURI.findPool P =
      if P = segments uri.RouteKey then
        (r.byURI.Find uri.RouteKey).bind fun pool =>
          if (pool.Remove e).1.IsEmpty ∧ r.emptyPoolRemovable (pool.Remove e).1 now then none
          else some (pool.Remove e).1
      else r.byURI.findPool P := by
  unfold unregister
  dsimp only
  split
  · rename_i h
    split_ifs with hP
    · subst hP; simp only [Find] at h ⊢; simp [h]
    · rfl
  · rename_i pool h
    by_cases hP : P = segments uri.RouteKey
    · subst hP
      simp only [if_true, h, Option.some_bind]
      split_ifs <;> simp [Trie.Insert, Trie.Delete, findPool_deletePath, findPool_insertPath]
    · simp only [hP, if_false]
      split_ifs <;> simp [Trie.Insert, Trie.Delete, findPool_deletePath, findPool_insertPath, hP]

/-- On a route key, `Find` after `register`. -/
theorem Find_register (r : RouteRegistry) (uri : Uri) (e : Endpoint) (now : Int) (u : Uri) :
    (r.register uri e now).1.byURI.Find u.RouteKey =
      if u.RouteKey = uri.RouteKey then
        some (((r.byURI.Find uri.RouteKey).getD (NewPool r.nextPoolId (r.newPoolOpts uri) now)).Put
          (r.clampStaleThreshold e) now).1
      else r.byURI.Find u.RouteKey := by
  simp only [Find, findPool_register]
  by_cases h : u.RouteKey = uri.RouteKey
  · simp [h]
  · have hs : segments u.RouteKey ≠ segments uri.RouteKey := fun h' => h (segments_RouteKey_inj h')
    simp [h, hs]

/-- On a route key, `Find` after `unregister`. -/
theorem Find_unregister (r : RouteRegistry) (uri : Uri) (e : Endpoint) (now : Int) (u : Uri) :
    (r.unregister uri e now).byURI.Find u.RouteKey =
      if u.RouteKey = uri.RouteKey then
        (r.byURI.Find uri.RouteKey).bind fun pool =>
          if (pool.Remove e).1.IsEmpty ∧ r.emptyPoolRemovable (pool.Remove e).1 now then none
          else some (pool.Remove e).1
      else r.byURI.Find u.RouteKey := by
  simp only [Find, findPool_unregister]
  by_cases h : u.RouteKey = uri.RouteKey
  · simp [h]
  · have hs : segments u.RouteKey ≠ segments uri.RouteKey := fun h' => h (segments_RouteKey_inj h')
    simp [h, hs]

@[simp] theorem config_freshenRoutes (r : RouteRegistry) (now : Int) :
    (r.freshenRoutes now).config = r.config := rfl

@[simp] theorem pruningStatus_freshenRoutes (r : RouteRegistry) (now : Int) :
    (r.freshenRoutes now).pruningStatus = r.pruningStatus := rfl

theorem byURI_freshenRoutes (r : RouteRegistry) (now : Int) :
    (r.freshenRoutes now).byURI = walkRoot (·.MarkUpdated now) (fun _ => false) r.byURI :=
  congrArg Prod.fst (EachNodeWithPool_eq _ _ r.byURI_wf)

/-- `freshenRoutes` marks every pool updated and removes none. -/
theorem findPool_freshenRoutes (r : RouteRegistry) (now : Int) (P : List Seg) :
    (r.freshenRoutes now).byURI.findPool P = (r.byURI.findPool P).map (·.MarkUpdated now) := by
  rw [byURI_freshenRoutes]
  exact findPool_walkRoot_of_never_snip _ _ (fun _ => rfl) r.byURI_wf P

@[simp] theorem config_tickStart (r : RouteRegistry) (now : Int) :
    (r.tickStart now).config = r.config := by
  unfold tickStart; split_ifs <;> rfl

@[simp] theorem config_pruneStaleDroplets (r : RouteRegistry) (s : Bool) (now : Int) :
    (r.pruneStaleDroplets s now).config = r.config := by
  unfold pruneStaleDroplets
  split_ifs
  · rfl
  · exact config_tickStart r now

@[simp] theorem pruningStatus_pruneStaleDroplets (r : RouteRegistry) (s : Bool) (now : Int) :
    (r.pruneStaleDroplets s now).pruningStatus = if s then .DISCONNECTED else .CONNECTED := by
  unfold pruneStaleDroplets; split_ifs <;> rfl

/-- A tick that is not suspended leaves the trie of the structural walk with
`PruneEndpoints` and the snip policy. -/
theorem byURI_pruneStaleDroplets (r : RouteRegistry) (now : Int) :
    (r.pruneStaleDroplets false now).byURI =
      walkRoot (fun pool => (pool.PruneEndpoints now).1) (r.emptyPoolRemovable · now)
        (r.tickStart now).byURI := by
  have hrem := emptyPoolRemovable_congr (config_tickStart r now)
  simp only [pruneStaleDroplets, Bool.false_eq_true, if_false, pruneWalk, pruneCallback]
  rw [EachNodeWithPool_eq _ _ (r.tickStart now).byURI_wf, ← hrem]
  rfl

@[simp] theorem config_Register (r : RouteRegistry) (uri : Uri) (e : Endpoint) (now : Int) :
    (r.Register uri e now).config = r.config := by
  unfold Register; split_ifs <;> simp

@[simp] theorem config_Unregister (r : RouteRegistry) (uri : Uri) (e : Endpoint) (now : Int) :
    (r.Unregister uri e now).config = r.config := by
  unfold Unregister; split_ifs <;> simp

@[simp] theorem config_step (r : RouteRegistry) (c : Call) : (r.step c).config = r.config := by
  cases c <;> simp [step]

@[simp] theorem config_run (r : RouteRegistry) (calls : List Call) :
    (r.run calls).config = r.config := by
  induction calls generalizing r <;> simp [*]

end RouteRegistry

/-! ## Sample values

The endpoint and configurations the witnesses and counterexamples run on. -/

/-- An endpoint with the given address and threshold, the other fields empty:
it names no load-balancing algorithm. -/
def sampleEndpoint (addr : String) (staleThreshold : Int) : Endpoint where
  canonicalAddr := addr
  privateInstanceId := ""
  applicationId := ""
  privateInstanceIndex := "0"
  processId := ""
  isolationSegment := ""
  staleThreshold := staleThreshold
  loadBalancingAlgorithm := ""

/-- A router configuration with a 120 s stale threshold, every shard, and
the empty-pool policy given. -/
def sampleConfig (EmptyPoolResponseCode503 : Bool) (EmptyPoolTimeout : Int) : Config where
  DropletStaleThreshold := 120
  RoutingTableShardingMode := .SHARD_ALL
  IsolationSegments := []
  BackendsMaxConns := 0
  EmptyPoolTimeout := EmptyPoolTimeout
  EmptyPoolResponseCode503 := EmptyPoolResponseCode503
  LoadBalance := "round-robin"

end Gorouter.Registry
