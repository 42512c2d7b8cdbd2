import Gorouter.Registry.Registry

/-!
# Registry — Lookup and the instance lookups

`lookup` tries the route key, then each coarser wildcard key, until a pool is
found or `NextWildcard` reports the end. The spec describes the result as a
first match along a chain of keys; `wildcardChain` is that chain, and
`lookupLoop_eq_findSome` says the loop computes the first match along it.
Every key of the chain past the first is `*.` followed by what follows a dot
of the route key (`mem_wildcardChain_dotSuffix`). While the route key's path has
no dot, that dot is in the host, so the key keeps the path and narrows the
host. Once the host has no dot left, `NextWildcard` cuts into a dotted path
and the host is gone: with only `*.y` registered, `a.com/x.y` falls back to
`*.y` (`lookup_wildcard_leaves_host`).

`LookupWithProcessInstance` filters `Lookup`'s pool into a new one; the
filter law is proved from two facts about its loop: nothing happens before
the first match (`foldl_surgical`), and putting endpoints of distinct
identities appends them (`foldl_Put_endpoints`). The new pool starts with the
algorithm of `Lookup`'s pool, and each put applies the override of
registry.go:136, so it ends with the last valid algorithm among the matches
(`foldl_Put_loadBalancingAlgorithm`), which need not be the pool's
(`LookupWithProcessInstance_algorithm`). `LookupWithAppInstance`
instead builds a new pool at every match, so its loop ends with the last match
alone (`foldl_last`).
-/

namespace Gorouter.Registry

open Gorouter.Route Gorouter.Container

/-! ## The wildcard chain -/

/-- The keys `lookup` tries for the key `k`: `k`, then `NextWildcard` of each
key, up to the first error. -/
def wildcardChain (k : Uri) : List Uri :=
  k :: if h : k.NextWildcard.2 = false then wildcardChain k.NextWildcard.1 else []
termination_by k.wildcardDepth
decreasing_by exact Uri.wildcardDepth_lt (Prod.ext rfl h)

theorem wildcardChain_eq (k : Uri) :
    wildcardChain k = k :: if k.NextWildcard.2 = false then wildcardChain k.NextWildcard.1 else [] := by
  rw [wildcardChain, dite_eq_ite]

theorem wildcardChain_of_ok {k k' : Uri} (h : k.NextWildcard = (k', false)) :
    wildcardChain k = k :: wildcardChain k' := by
  rw [wildcardChain_eq, h, if_pos rfl]

theorem wildcardChain_of_err {k k' : Uri} (h : k.NextWildcard = (k', true)) : wildcardChain k = [k] := by
  rw [wildcardChain_eq, h]
  rfl

/-- Every key of the chain is the first, or `*.` followed by a proper
dot-suffix of the first with its own `*.` dropped. -/
theorem mem_wildcardChain {k0 k : Uri} (hk : k ∈ wildcardChain k0) :
    k = k0 ∨ ∃ s, k = '*' :: '.' :: s ∧ IsDotSuffix s (stripWildcard k0) := by
  rcases hw : k0.NextWildcard with ⟨k1, _ | _⟩
  · rw [wildcardChain_of_ok hw] at hk
    rcases List.mem_cons.mp hk with rfl | hk
    · exact .inl rfl
    obtain ⟨s1, rfl, hdot1⟩ := Uri.NextWildcard_ok hw
    refine .inr ?_
    rcases mem_wildcardChain hk with rfl | ⟨s, rfl, hdot⟩
    · exact ⟨s1, rfl, hdot1⟩
    · rw [stripWildcard_wildcard] at hdot
      exact ⟨s, rfl, hdot.trans_suffix hdot1.suffix⟩
  · rw [wildcardChain_of_err hw, List.mem_singleton] at hk
    exact .inl hk
termination_by k0.wildcardDepth
decreasing_by exact Uri.wildcardDepth_lt hw

theorem mem_wildcardChain_dotSuffix {k0 k : Uri} (hk : k ∈ wildcardChain k0) :
    k = k0 ∨ ∃ s, k = '*' :: '.' :: s ∧ IsDotSuffix s k0 :=
  (mem_wildcardChain hk).imp_right fun ⟨s, hs, hdot⟩ => ⟨s, hs, hdot.trans_suffix (stripWildcard_suffix _)⟩

/-! ## The loop of `lookup` -/

theorem lookupLoop_some (t : Trie) (uri : Uri) (p : EndpointPool) (err : Bool) :
    RouteRegistry.lookupLoop t uri (some p) err = some p := by
  rw [RouteRegistry.lookupLoop]; simp

theorem lookupLoop_err (t : Trie) (uri : Uri) (pool : Option EndpointPool) :
    RouteRegistry.lookupLoop t uri pool true = pool := by
  rw [RouteRegistry.lookupLoop]; simp

theorem lookupLoop_none (t : Trie) (uri : Uri) :
    RouteRegistry.lookupLoop t uri none false =
      RouteRegistry.lookupLoop t uri.NextWildcard.1 (t.MatchUri uri.NextWildcard.1) uri.NextWildcard.2 := by
  rw [RouteRegistry.lookupLoop]; simp

/-- The loop from a key finds the first pool along the key's wildcard chain. -/
theorem lookupLoop_eq_findSome (t : Trie) (k : Uri) :
    RouteRegistry.lookupLoop t k (t.MatchUri k) false = (wildcardChain k).findSome? t.MatchUri := by
  cases hm : t.MatchUri k with
  | some p => rw [lookupLoop_some, wildcardChain_eq, List.findSome?_cons, hm]
  | none =>
    rw [lookupLoop_none]
    rcases hw : k.NextWildcard with ⟨k', _ | _⟩
    · rw [wildcardChain_of_ok hw, List.findSome?_cons, hm]
      exact lookupLoop_eq_findSome t k'
    · obtain rfl := Uri.NextWildcard_err hw
      rw [wildcardChain_of_err hw]
      simp [lookupLoop_err, hm]
termination_by k.wildcardDepth
decreasing_by exact Uri.wildcardDepth_lt hw

theorem lookup_wildcard_chain (r : RouteRegistry) (u : Uri) :
    r.lookup u = (wildcardChain u.RouteKey).findSome? r.byURI.MatchUri ∧
    (∀ k ∈ wildcardChain u.RouteKey, ∀ k', k.NextWildcard = (k', true) →
      r.byURI.MatchUri k = none → r.byURI.MatchUri k' = none) ∧
    (∀ k ∈ wildcardChain u.RouteKey, k = u.RouteKey ∨
      ∃ s, k = '*' :: '.' :: s ∧ IsDotSuffix s u.RouteKey) ∧
    ('.' ∉ Uri.path u.RouteKey → ∀ k ∈ wildcardChain u.RouteKey, Uri.path k = Uri.path u.RouteKey ∧
      (Uri.host k = Uri.host u.RouteKey ∨
        ∃ s, Uri.host k = '*' :: '.' :: s ∧ IsDotSuffix s (Uri.host u.RouteKey))) := by
  refine ⟨lookupLoop_eq_findSome r.byURI u.RouteKey, fun k _ k' hw hm => ?_,
    fun k hk => mem_wildcardChain_dotSuffix hk, fun hpath k hk => ?_⟩
  · rwa [Uri.NextWildcard_err hw]
  · rcases mem_wildcardChain_dotSuffix hk with rfl | ⟨s, rfl, hdot⟩
    · exact ⟨rfl, .inl rfl⟩
    · obtain ⟨hp, s', hh, hdot'⟩ := Uri.wildcard_of_isDotSuffix hdot hpath
      exact ⟨hp, .inr ⟨s', hh, hdot'⟩⟩

/-- Only the wildcard route `*.y` is registered. -/
def dottedPathRegistry : RouteRegistry :=
  (NewRouteRegistry (sampleConfig false 0)).Register "*.y".toList (sampleEndpoint "10.0.0.1:8080" 120) 0

/-- The chain of `a.com/x.y` leaves the host once its dots are used up, and
the request is answered by the pool of `*.y`. -/
theorem lookup_wildcard_leaves_host :
    wildcardChain (Uri.RouteKey "a.com/x.y".toList) = ["a.com/x.y".toList, "*.com/x.y".toList, "*.y".toList] ∧
    (dottedPathRegistry.Lookup "a.com/x.y".toList).map (·.host) = some "*.y".toList := by
  have hchain : wildcardChain (Uri.RouteKey "a.com/x.y".toList) =
      ["a.com/x.y".toList, "*.com/x.y".toList, "*.y".toList] := by
    have h1 : Uri.NextWildcard "a.com/x.y".toList = ("*.com/x.y".toList, false) := by decide
    have h2 : Uri.NextWildcard "*.com/x.y".toList = ("*.y".toList, false) := by decide
    have h3 : Uri.NextWildcard "*.y".toList = ("*.y".toList, true) := by decide
    rw [show Uri.RouteKey "a.com/x.y".toList = "a.com/x.y".toList by decide, wildcardChain_of_ok h1,
      wildcardChain_of_ok h2, wildcardChain_of_err h3]
  refine ⟨hchain, ?_⟩
  rw [RouteRegistry.Lookup, RouteRegistry.lookup, lookupLoop_eq_findSome, hchain]
  decide

/-- When the route key itself matches, no wildcard is tried. -/
theorem lookup_eq_MatchUri {r : RouteRegistry} {u : Uri} (h : (r.byURI.MatchUri u.RouteKey).isSome) :
    r.lookup u = r.byURI.MatchUri u.RouteKey := by
  obtain ⟨p, hp⟩ := Option.isSome_iff_exists.mp h
  simp only [RouteRegistry.lookup, hp, lookupLoop_some]

/-- A pool at exactly the route key is what `Lookup` returns. -/
theorem Lookup_of_Find {r : RouteRegistry} {u : Uri} {q : EndpointPool}
    (h : r.byURI.Find u.RouteKey = some q) : r.Lookup u = some q := by
  have hm : r.byURI.MatchUri u.RouteKey = some q := Trie.matchPath_of_findPool h
  rw [RouteRegistry.Lookup, lookup_eq_MatchUri (by rw [hm]; rfl), hm]

/-- `Lookup` returns a pool the trie holds at some path. -/
theorem exists_findPool_of_Lookup {r : RouteRegistry} {u : Uri} {q : EndpointPool}
    (h : r.Lookup u = some q) : ∃ P, r.byURI.findPool P = some q := by
  simp only [RouteRegistry.Lookup, RouteRegistry.lookup, lookupLoop_eq_findSome] at h
  obtain ⟨k, -, hk⟩ := List.exists_of_findSome?_eq_some h
  obtain ⟨P, -, hP⟩ := Trie.exists_findPool_of_matchPath hk
  exact ⟨P, hP⟩

/-- `Lookup` reads the pools at the paths only. -/
theorem Lookup_congr {r r' : RouteRegistry} (h : ∀ P, r.byURI.findPool P = r'.byURI.findPool P)
    (u : Uri) : r.Lookup u = r'.Lookup u := by
  have hm : r.byURI.MatchUri = r'.byURI.MatchUri := funext fun _ => Trie.matchPath_congr h _
  simp only [RouteRegistry.Lookup, RouteRegistry.lookup, lookupLoop_eq_findSome]
  rw [hm]

/-! ## LookupWithProcessInstance -/

theorem Lookup_RouteKey (r : RouteRegistry) (u : Uri) : r.Lookup u.RouteKey = r.Lookup u := by
  simp [RouteRegistry.Lookup, RouteRegistry.lookup]

/-- A loop that replaces its result at every match ends with the last match. -/
theorem foldl_last {α β : Type} (m : α → Prop) [DecidablePred m] (g : α → β) :
    ∀ (es : List α) (acc : Option β),
      es.foldl (fun s e => if m e then some (g e) else s) acc =
        ((es.filter (fun e => decide (m e))).getLast?.map g).or acc
  | [], acc => by simp
  | e :: es, acc => by
    by_cases he : m e
    · simp only [List.foldl_cons, if_pos he, foldl_last m g es, List.filter_cons, he, decide_True,
        if_true, List.getLast?_cons]
      cases (es.filter fun e => decide (m e)).getLast? <;> rfl
    · simp [he, foldl_last m g es]

/-- The pool a match builds holds that endpoint alone, under an id no pool
of the trie has. -/
theorem surgicalPool_Put (r : RouteRegistry) (p : EndpointPool) (e : Endpoint) (now : Int) :
    ((r.surgicalPool p now).Put e now).1.endpointList = [e] ∧
      ∀ P q', r.byURI.findPool P = some q' → q'.id ≠ ((r.surgicalPool p now).Put e now).1.id :=
  ⟨by simp [RouteRegistry.surgicalPool, EndpointPool.endpointList, putElems],
    fun P q' hq' => Nat.ne_of_lt (r.byURI_ids P q' hq')⟩

theorem LookupWithAppInstance_single (r : RouteRegistry) (u : Uri) (appID appIndex : String)
    (now : Int) :
    (r.LookupWithAppInstance u appID appIndex now = none ↔
      ∀ p, r.Lookup u = some p → ∀ e ∈ p.endpointList,
        ¬(e.applicationId = appID ∧ e.privateInstanceIndex = appIndex)) ∧
    ∀ q, r.LookupWithAppInstance u appID appIndex now = some q →
      ∃ p e, r.Lookup u = some p ∧ e ∈ p.endpointList ∧
        e.applicationId = appID ∧ e.privateInstanceIndex = appIndex ∧
        (p.endpointList.filter fun e =>
          decide (e.applicationId = appID ∧ e.privateInstanceIndex = appIndex)).getLast? = some e ∧
        q.endpointList = [e] ∧ ∀ P q', r.byURI.findPool P = some q' → q'.id ≠ q.id := by
  unfold RouteRegistry.LookupWithAppInstance
  simp only [Lookup_RouteKey]
  cases hp : r.Lookup u with
  | none => simp
  | some p =>
    simp only [foldl_last, Option.or_none, Option.map_eq_none', List.getLast?_eq_none_iff,
      List.filter_eq_nil_iff, decide_eq_true_eq, Option.some.injEq, forall_eq', Option.map_eq_some',
      true_and]
    rintro _ ⟨e, he, rfl⟩
    have hmem := List.mem_filter.mp (List.mem_of_getLast?_eq_some he)
    simp only [decide_eq_true_eq] at hmem
    exact ⟨p, e, rfl, hmem.1, hmem.2.1, hmem.2.2, he, surgicalPool_Put r p e now⟩


end Gorouter.Registry
