import Gorouter.Route.Uri
import Mathlib.Data.List.Nodup

/-!
# Route — Endpoint and EndpointPool

The endpoint record and the pool the registry keeps per route key. Like
`Uri`, the `route` package is not among the sources: the pool is modelled
from the specification's data model and pool contract (§3, §4.2). An
endpoint's identity is "canonical address + `PrivateInstanceId`", a pool is
"an ordered collection of endpoints" with "no two endpoints with the same
identity", and `Put` "always refreshes the last-updated timestamp". The one
thing the pool does that the spec leaves out is said at registry.go:136, under
the `Put` call of `register`: the put "Overwrites the load balancing algorithm
of a pool by that of a specified endpoint, if that is valid". The endpoint
carries the algorithm it names, and `Put` applies it
(`Endpoint.overrideLoadBalancingAlgorithm`).

Go's pool is a pointer shared by the trie and every in-flight reader. Here
a pool is a value, and its pointer identity is the `id` field: every
`NewPool` of the registry receives a fresh one (see `RouteRegistry`). The
identity invariant is a field of the structure (`nodup`), so every operation
below proves it once and no caller re-proves it.
-/

namespace Gorouter.Route

/-- Modelled from the spec: the endpoint fields the registry reads.
`processId` is `ProcessId()`, and `loadBalancingAlgorithm` the algorithm the
endpoint names for its pool, empty when it names none (registry.go:136); fields
the registry only logs are left out. -/
structure Endpoint where
  canonicalAddr : String
  privateInstanceId : String
  applicationId : String
  privateInstanceIndex : String
  processId : String
  isolationSegment : String
  staleThreshold : Int
  loadBalancingAlgorithm : String
  deriving DecidableEq, Repr

/-- Modelled from the spec: "Identity is by canonical address +
`PrivateInstanceId`". -/
def Endpoint.identity (e : Endpoint) : String × String :=
  (e.canonicalAddr, e.privateInstanceId)

/-- Modelled from the spec: `route.PoolPutResult`, with the spec's three
outcomes. -/
inductive PoolPutResult where
  | ADDED
  | UPDATED
  | UNCHANGED
  deriving DecidableEq, Repr

/-- One slot of a pool: the endpoint and the time it was last put, the
`UpdatedAt` that staleness is measured from. -/
structure EndpointElem where
  endpoint : Endpoint
  updatedAt : Int
  deriving DecidableEq, Repr

/-- The identities of a slot list, in order. -/
def identities (es : List EndpointElem) : List (String × String) :=
  es.map (·.endpoint.identity)

/-- Modelled from the spec: `route.PoolOpts`, the fields `insertRouteKey` sets,
without the logger. -/
structure PoolOpts where
  retryAfterFailure : Int
  host : List Char
  contextPath : List Char
  maxConnsPerBackend : Int
  loadBalancingAlgorithm : String

/-- Modelled from the spec: `route.EndpointPool`, with the attributes the spec
lists. `updatedAt` is `LastUpdated()`. -/
structure EndpointPool where
  id : Nat
  host : List Char
  contextPath : List Char
  retryAfterFailure : Int
  maxConnsPerBackend : Int
  loadBalancingAlgorithm : String
  updatedAt : Int
  endpoints : List EndpointElem
  nodup : (identities endpoints).Nodup
  deriving DecidableEq

namespace EndpointPool

/-- The endpoints in the order `Each` visits them. -/
def endpointList (p : EndpointPool) : List Endpoint := p.endpoints.map (·.endpoint)

/-- Modelled from the spec: `IsEmpty()`, zero endpoints. -/
def IsEmpty (p : EndpointPool) : Bool := p.endpoints.isEmpty

/-- Modelled from the spec: `LastUpdated()`. -/
def LastUpdated (p : EndpointPool) : Int := p.updatedAt

theorem IsEmpty_iff (p : EndpointPool) : p.IsEmpty = true ↔ p.endpoints = [] := by
  simp [IsEmpty]

theorem IsEmpty_iff_endpointList (p : EndpointPool) : p.IsEmpty = true ↔ p.endpointList = [] := by
  simp [IsEmpty, endpointList]

end EndpointPool

/-- Modelled from the spec: `route.NewPool`, an empty pool last updated at
its creation. -/
def NewPool (id : Nat) (opts : PoolOpts) (now : Int) : EndpointPool where
  id := id
  host := opts.host
  contextPath := opts.contextPath
  retryAfterFailure := opts.retryAfterFailure
  maxConnsPerBackend := opts.maxConnsPerBackend
  loadBalancingAlgorithm := opts.loadBalancingAlgorithm
  updatedAt := now
  endpoints := []
  nodup := List.nodup_nil

@[simp] theorem NewPool_endpoints (id : Nat) (opts : PoolOpts) (now : Int) :
    (NewPool id opts now).endpoints = [] := rfl

/-! ## Put -/

/-- The slots after putting `e` at `now`: the slot holding `e`'s identity is
replaced in place, otherwise a slot is appended. -/
def putElems (e : Endpoint) (now : Int) : List EndpointElem → List EndpointElem
  | [] => [⟨e, now⟩]
  | x :: xs => if x.endpoint.identity = e.identity then ⟨e, now⟩ :: xs else x :: putElems e now xs

/-- The outcome `Put` reports: `ADDED` for a new identity, `UPDATED` when the
stored endpoint differs, `UNCHANGED` otherwise. -/
def putResult (e : Endpoint) : List EndpointElem → PoolPutResult
  | [] => .ADDED
  | x :: xs =>
    if x.endpoint.identity = e.identity then
      if x.endpoint = e then .UNCHANGED else .UPDATED
    else putResult e xs

theorem identities_putElems (e : Endpoint) (now : Int) (es : List EndpointElem) :
    identities (putElems e now es) =
      if e.identity ∈ identities es then identities es else identities es ++ [e.identity] := by
  induction es with
  | nil => simp [putElems, identities]
  | cons x xs ih =>
    by_cases hx : x.endpoint.identity = e.identity
    · simp [putElems, identities, hx]
    · have hmem : e.identity ∈ identities (x :: xs) ↔ e.identity ∈ identities xs := by
        rw [show identities (x :: xs) = _ :: identities xs from rfl, List.mem_cons]
        exact or_iff_right (Ne.symm hx)
      rw [putElems, if_neg hx, show identities (x :: putElems e now xs) =
        x.endpoint.identity :: identities (putElems e now xs) from rfl, ih]
      by_cases hm : e.identity ∈ identities xs
      · rw [if_pos hm, if_pos (hmem.mpr hm)]; rfl
      · rw [if_neg hm, if_neg (mt hmem.mp hm)]; rfl

/-- A put keeps every identity the slots had. -/
theorem mem_identities_putElems {i : String × String} {es : List EndpointElem}
    (h : i ∈ identities es) (e : Endpoint) (now : Int) : i ∈ identities (putElems e now es) := by
  rw [identities_putElems]
  split <;> simp [h]

theorem nodup_putElems {es : List EndpointElem} (h : (identities es).Nodup) (e : Endpoint)
    (now : Int) : (identities (putElems e now es)).Nodup := by
  rw [identities_putElems]
  split
  · exact h
  · exact h.append (List.nodup_singleton _) (by simpa)

/-- A new identity is appended. -/
theorem putElems_of_not_mem {e : Endpoint} {es : List EndpointElem}
    (h : e.identity ∉ identities es) (now : Int) : putElems e now es = es ++ [⟨e, now⟩] := by
  induction es with
  | nil => rfl
  | cons x xs ih =>
    have hx : x.endpoint.identity ≠ e.identity := fun hx => h (by simp [identities, hx])
    simp [putElems, hx, ih (fun hm => h (by simp [identities] at hm ⊢; exact Or.inr hm))]

/-- On slots of distinct identities, a put of a present identity replaces
that slot in place. -/
theorem putElems_of_mem {e : Endpoint} {es : List EndpointElem} (hnd : (identities es).Nodup)
    (h : e.identity ∈ identities es) (now : Int) :
    putElems e now es = es.map fun x => if x.endpoint.identity = e.identity then ⟨e, now⟩ else x := by
  induction es with
  | nil => cases h
  | cons x xs ih =>
    have hnd' : x.endpoint.identity ∉ identities xs ∧ (identities xs).Nodup := List.nodup_cons.mp hnd
    by_cases hx : x.endpoint.identity = e.identity
    · have hrest : xs.map (fun y => if y.endpoint.identity = e.identity then ⟨e, now⟩ else y) = xs := by
        conv_rhs => rw [← List.map_id xs]
        refine List.map_congr_left fun y hy => if_neg fun hy' => hnd'.1 ?_
        rw [hx, ← hy']
        exact List.mem_map_of_mem _ hy
      simp [putElems, hx, hrest]
    · have hmem : e.identity ∈ identities xs :=
        (List.mem_cons.mp h).resolve_left fun h' => hx h'.symm
      simp [putElems, hx, ih hnd'.2 hmem]

theorem putResult_of_not_mem {e : Endpoint} {es : List EndpointElem} (h : e.identity ∉ identities es) :
    putResult e es = .ADDED := by
  induction es with
  | nil => rfl
  | cons x xs ih =>
    have hx : x.endpoint.identity ≠ e.identity := fun hx => h (by simp [identities, hx])
    rw [putResult, if_neg hx, ih (fun hm => h (List.mem_cons_of_mem _ hm))]

/-- On slots of distinct identities, `Put` compares `e` with the one slot of
its identity. -/
theorem putResult_of_mem {e : Endpoint} {es : List EndpointElem} (hnd : (identities es).Nodup)
    {x : EndpointElem} (hx : x ∈ es) (hid : x.endpoint.identity = e.identity) :
    putResult e es = if x.endpoint = e then .UNCHANGED else .UPDATED := by
  induction es with
  | nil => cases hx
  | cons y ys ih =>
    have hnd' : y.endpoint.identity ∉ identities ys ∧ (identities ys).Nodup := List.nodup_cons.mp hnd
    by_cases hy : y.endpoint.identity = e.identity
    · obtain rfl : x = y := (List.mem_cons.mp hx).resolve_right fun hx' => hnd'.1 (by
        rw [hy, ← hid]; exact List.mem_map_of_mem _ hx')
      simp [putResult, hy]
    · have hx' : x ∈ ys := (List.mem_cons.mp hx).resolve_left fun h => hy (h ▸ hid)
      rw [putResult, if_neg hy, ih hnd'.2 hx']

/-- After a put the pool holds `e`, refreshed at `now`. -/
theorem mem_putElems (e : Endpoint) (now : Int) (es : List EndpointElem) :
    ⟨e, now⟩ ∈ putElems e now es := by
  induction es with
  | nil => simp [putElems]
  | cons x xs ih => by_cases hx : x.endpoint.identity = e.identity <;> simp [putElems, hx, ih]

/-- A put leaves no slot list empty. -/
theorem putElems_ne_nil (e : Endpoint) (now : Int) (es : List EndpointElem) : putElems e now es ≠ [] :=
  List.ne_nil_of_mem (mem_putElems e now es)

/-- Every slot after a put is `e`'s or was there before. -/
theorem mem_of_mem_putElems {e : Endpoint} {now : Int} {es : List EndpointElem}
    {x : EndpointElem} (h : x ∈ putElems e now es) : x = ⟨e, now⟩ ∨ x ∈ es := by
  induction es with
  | nil => simpa [putElems] using h
  | cons y ys ih =>
    by_cases hy : y.endpoint.identity = e.identity
    · simp only [putElems, hy, if_true, List.mem_cons] at h
      rcases h with h | h <;> simp [h]
    · simp only [putElems, hy, if_false, List.mem_cons] at h
      rcases h with h | h
      · simp [h]
      · rcases ih h with h' | h' <;> simp [h']

/-! ## The load-balancing override -/

/-- Modelled from the spec: the algorithms a pool balances with, "round-robin by
default; least-connections as an alternative". -/
def LoadBalancingAlgorithms : List String := ["round-robin", "least-connections"]

/-- Whether `alg` is one of the algorithms. The empty string, which an endpoint
naming none carries, is not. -/
def IsLoadBalancingAlgorithmValid (alg : String) : Bool := decide (alg ∈ LoadBalancingAlgorithms)

/-- The algorithm of a pool that used `alg` once `e` is put into it: `e`'s own
when it is valid (registry.go:136). -/
def Endpoint.overrideLoadBalancingAlgorithm (e : Endpoint) (alg : String) : String :=
  if IsLoadBalancingAlgorithmValid e.loadBalancingAlgorithm then e.loadBalancingAlgorithm else alg

/-- Modelled from the spec: `EndpointPool.Put`, absent from the sources. The pool
after the put, and the outcome. Every put refreshes the pool's `LastUpdated`,
and a valid algorithm of `e` becomes the pool's (registry.go:136). -/
def EndpointPool.Put (p : EndpointPool) (e : Endpoint) (now : Int) :
    EndpointPool × PoolPutResult :=
  ({ p with endpoints := putElems e now p.endpoints, updatedAt := now,
            loadBalancingAlgorithm := e.overrideLoadBalancingAlgorithm p.loadBalancingAlgorithm,
            nodup := nodup_putElems p.nodup e now },
   putResult e p.endpoints)

@[simp] theorem EndpointPool.Put_endpoints (p : EndpointPool) (e : Endpoint) (now : Int) :
    (p.Put e now).1.endpoints = putElems e now p.endpoints := rfl

@[simp] theorem EndpointPool.Put_id (p : EndpointPool) (e : Endpoint) (now : Int) :
    (p.Put e now).1.id = p.id := rfl

@[simp] theorem EndpointPool.Put_updatedAt (p : EndpointPool) (e : Endpoint) (now : Int) :
    (p.Put e now).1.updatedAt = now := rfl

@[simp] theorem EndpointPool.Put_loadBalancingAlgorithm (p : EndpointPool) (e : Endpoint) (now : Int) :
    (p.Put e now).1.loadBalancingAlgorithm = e.overrideLoadBalancingAlgorithm p.loadBalancingAlgorithm :=
  rfl

theorem EndpointPool.Put_not_IsEmpty (p : EndpointPool) (e : Endpoint) (now : Int) :
    (p.Put e now).1.IsEmpty = false := by
  have := mem_putElems e now p.endpoints
  cases h : putElems e now p.endpoints with
  | nil => simp [h] at this
  | cons _ _ => simp [IsEmpty, h]

/-! ## Remove, PruneEndpoints, MarkUpdated -/

theorem nodup_filter {es : List EndpointElem} (h : (identities es).Nodup)
    (q : EndpointElem → Bool) : (identities (es.filter q)).Nodup :=
  h.sublist ((List.filter_sublist _).map _)

/-- Modelled from the spec: `EndpointPool.Remove`, absent from the sources. It
drops the slot with `e`'s identity and says whether there was one. -/
def EndpointPool.Remove (p : EndpointPool) (e : Endpoint) : EndpointPool × Bool :=
  ({ p with endpoints := p.endpoints.filter (·.endpoint.identity ≠ e.identity),
            nodup := nodup_filter p.nodup _ },
   decide (e.identity ∈ identities p.endpoints))

@[simp] theorem EndpointPool.Remove_endpoints (p : EndpointPool) (e : Endpoint) :
    (p.Remove e).1.endpoints = p.endpoints.filter (·.endpoint.identity ≠ e.identity) := rfl

@[simp] theorem EndpointPool.Remove_id (p : EndpointPool) (e : Endpoint) :
    (p.Remove e).1.id = p.id := rfl

@[simp] theorem EndpointPool.Remove_updatedAt (p : EndpointPool) (e : Endpoint) :
    (p.Remove e).1.updatedAt = p.updatedAt := rfl

/-- `Remove` drops exactly `e`'s identity. -/
theorem EndpointPool.mem_identities_Remove {p : EndpointPool} {e : Endpoint} {i : String × String} :
    i ∈ identities (p.Remove e).1.endpoints ↔ i ∈ identities p.endpoints ∧ i ≠ e.identity := by
  simp only [identities, Remove_endpoints, List.mem_map, List.mem_filter, decide_eq_true_eq]
  constructor
  · rintro ⟨x, ⟨hx, hne⟩, rfl⟩
    exact ⟨⟨x, hx, rfl⟩, hne⟩
  · rintro ⟨⟨x, hx, rfl⟩, hne⟩
    exact ⟨x, ⟨hx, hne⟩, rfl⟩

/-- Modelled from the spec: a slot is stale when `UpdatedAt + StaleThreshold
< now`. -/
def EndpointElem.isStale (now : Int) (x : EndpointElem) : Bool :=
  decide (x.updatedAt + x.endpoint.staleThreshold < now)

/-- Modelled from the spec: `EndpointPool.PruneEndpoints`, absent from the
sources. It drops the slots that are stale at `now` and returns their endpoints. -/
def EndpointPool.PruneEndpoints (p : EndpointPool) (now : Int) : EndpointPool × List Endpoint :=
  ({ p with endpoints := p.endpoints.filter (fun x => !x.isStale now),
            nodup := nodup_filter p.nodup _ },
   (p.endpoints.filter (·.isStale now)).map (·.endpoint))

@[simp] theorem EndpointPool.PruneEndpoints_endpoints (p : EndpointPool) (now : Int) :
    (p.PruneEndpoints now).1.endpoints = p.endpoints.filter (fun x => !x.isStale now) := rfl

@[simp] theorem EndpointPool.PruneEndpoints_id (p : EndpointPool) (now : Int) :
    (p.PruneEndpoints now).1.id = p.id := rfl

@[simp] theorem EndpointPool.PruneEndpoints_updatedAt (p : EndpointPool) (now : Int) :
    (p.PruneEndpoints now).1.updatedAt = p.updatedAt := rfl

/-- A second prune at the same time removes nothing and changes nothing. -/
theorem EndpointPool.PruneEndpoints_PruneEndpoints (p : EndpointPool) (now : Int) :
    (p.PruneEndpoints now).1.PruneEndpoints now = ((p.PruneEndpoints now).1, []) := by
  cases p
  simp [PruneEndpoints, List.filter_filter]

theorem identities_map_updatedAt (es : List EndpointElem) (t : Int) :
    identities (es.map fun x => { x with updatedAt := t }) = identities es := by
  simp [identities, Function.comp_def]

/-- Modelled from the spec: `EndpointPool.MarkUpdated(t)`, absent from the
sources. Every slot, and the pool, count as updated at `t` (registry.go's
comment: "mark pool / endpoints as updated"; the spec's "bulk-refresh every
pool's `UpdatedAt = now`"). -/
def EndpointPool.MarkUpdated (p : EndpointPool) (t : Int) : EndpointPool :=
  { p with endpoints := p.endpoints.map fun x => { x with updatedAt := t }, updatedAt := t,
           nodup := (identities_map_updatedAt p.endpoints t).symm ▸ p.nodup }

@[simp] theorem EndpointPool.MarkUpdated_endpoints (p : EndpointPool) (t : Int) :
    (p.MarkUpdated t).endpoints = p.endpoints.map fun x => { x with updatedAt := t } := rfl

@[simp] theorem EndpointPool.MarkUpdated_id (p : EndpointPool) (t : Int) :
    (p.MarkUpdated t).id = p.id := rfl

/-- Right after `MarkUpdated now`, a slot is stale at `now` only when its
threshold is negative. -/
theorem EndpointPool.not_isStale_MarkUpdated {p : EndpointPool} {now : Int} {x : EndpointElem}
    (hx : x ∈ (p.MarkUpdated now).endpoints) (h : 0 ≤ x.endpoint.staleThreshold) :
    x.isStale now = false := by
  simp only [MarkUpdated_endpoints, List.mem_map] at hx
  obtain ⟨y, -, rfl⟩ := hx
  simp only [EndpointElem.isStale, decide_eq_false_iff_not, not_lt] at h ⊢
  omega

/-! ## Identity -/

/-- A pool as a route key shows it, its pointer identity aside. -/
def EndpointPool.eraseId (p : EndpointPool) : EndpointPool := { p with id := 0 }

@[simp] theorem EndpointPool.eraseId_Put (p : EndpointPool) (e : Endpoint) (now : Int) :
    (p.Put e now).1.eraseId = (p.eraseId.Put e now).1 := rfl

@[simp] theorem EndpointPool.eraseId_Remove (p : EndpointPool) (e : Endpoint) :
    (p.Remove e).1.eraseId = (p.eraseId.Remove e).1 := rfl

@[simp] theorem EndpointPool.IsEmpty_eraseId (p : EndpointPool) : p.eraseId.IsEmpty = p.IsEmpty := rfl

@[simp] theorem EndpointPool.LastUpdated_eraseId (p : EndpointPool) :
    p.eraseId.LastUpdated = p.LastUpdated := rfl

@[simp] theorem EndpointPool.endpoints_eraseId (p : EndpointPool) : p.eraseId.endpoints = p.endpoints :=
  rfl

@[simp] theorem EndpointPool.eraseId_NewPool (n : Nat) (opts : PoolOpts) (now : Int) :
    (NewPool n opts now).eraseId = NewPool 0 opts now := rfl

end Gorouter.Route
