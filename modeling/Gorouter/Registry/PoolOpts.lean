import Gorouter.Registry.Registry

/-!
# Registry — The host and context path of a new pool

`insertRouteKey` files a new pool under the route key, but takes the pool's
`Host` and `ContextPath` from the uri of the registration that created it,
through `splitHostAndContextPath`. Two spellings of one route key can
therefore create different pools. The host keeps the registered case, the
context path keeps a trailing slash, and a `?` before the first `/` stays in
the host, while a slash inside the query ends up in the context path
(`splitHostAndContextPath_spelling`). The two spellings of proxy_test.go:199-226,
`test/another-path/your_path/` and `test/another-path/your_path`, are one
route, whose pool is named after whichever registered first.

When no `?` comes before the first `/` (after one leading `/` is trimmed),
`splitHostAndContextPath` reads the uri with its query stripped, and the
route key keeps everything that reading needs but the host's case and the
trailing slashes: the context path without its trailing slashes is a
function of the route key, and so is the host up to case
(`splitHostAndContextPath_of_RouteKey`, through `splitRouteKey`).
-/

namespace Gorouter.Registry

open Gorouter.Route

/-! ## Stripping the query -/

theorem takeWhile_query_eq {t : Uri} (ht : '?' ∉ Uri.host t) :
    t.takeWhile (· ≠ '?') = Uri.host t ++ (Uri.path t).takeWhile (· ≠ '?') := by
  conv_lhs => rw [← t.host_append_path]
  exact List.takeWhile_append_of_pos fun c hc => by simpa using fun h : c = '?' => ht (h ▸ hc)

/-- With no `?` in the host, stripping the query keeps the host and cuts the
path at the query. -/
theorem host_path_takeWhile_query {t : Uri} (ht : '?' ∉ Uri.host t) :
    Uri.host (t.takeWhile (· ≠ '?')) = Uri.host t ∧
      Uri.path (t.takeWhile (· ≠ '?')) = (Uri.path t).takeWhile (· ≠ '?') := by
  have hh : ∀ c ∈ Uri.host t, c ≠ '/' := fun _ => Uri.ne_slash_of_mem_host
  rw [takeWhile_query_eq ht]
  rcases t.path_eq with hp | ⟨r, hp⟩
  · have h1 := Uri.host_append_path_host hh t
    have h2 := Uri.path_append_path hh t
    simp only [hp, List.takeWhile_nil, List.append_nil] at h1 h2 ⊢
    exact ⟨h1, h2⟩
  · rw [hp, List.takeWhile_cons_of_pos (by decide)]
    exact ⟨Uri.host_append_slash hh, Uri.path_append_slash hh⟩

/-- With no `?` in the host, `splitHostAndContextPath` splits the trimmed uri
with its query stripped. -/
theorem splitHostAndContextPath_eq {u : Uri} (h : '?' ∉ Uri.host (trimPrefixSlash u)) :
    splitHostAndContextPath u =
      (Uri.host ((trimPrefixSlash u).takeWhile (· ≠ '?')),
       '/' :: (Uri.path ((trimPrefixSlash u).takeWhile (· ≠ '?'))).drop 1) := by
  obtain ⟨h1, h2⟩ := host_path_takeWhile_query h
  simp only [splitHostAndContextPath, h1, h2,
    List.takeWhile_cons_of_pos (by decide : decide ('/' ≠ '?') = true)]
  rcases Uri.path_eq (trimPrefixSlash u) with hp | ⟨r, hp⟩ <;> simp [hp]

/-! ## What the route key determines -/

/-- The lowercased host, and the context path without its trailing slashes,
that a route key determines. A key that starts with `/` came from a uri with a
leading `/`, which `splitHostAndContextPath` trims. -/
def splitRouteKey (k : Uri) : List Char × List Char :=
  if k.head? = some '/' then ((Uri.host k.tail).map Char.toLower, (Uri.path k.tail).rdropWhile (· = '/'))
  else (Uri.host k, (Uri.path k).rdropWhile (· = '/'))

/-- Only a uri that is empty or starts with a query has a route key starting
with `/` without starting with `/` itself. -/
theorem head_RouteKey {c : Char} {t : Uri} (hc : c ≠ '/') (hq : c ≠ '?') :
    (Uri.RouteKey (c :: t)).head? ≠ some '/' := by
  have hne : c.toLower ≠ '/' := by rwa [Ne, toLower_eq_iff (by decide)]
  have hQ : (c :: t).takeWhile (· ≠ '?') = c :: t.takeWhile (· ≠ '?') :=
    List.takeWhile_cons_of_pos (by simpa using hq)
  have hH : Uri.host (c :: t.takeWhile (· ≠ '?')) = c :: Uri.host (t.takeWhile (· ≠ '?')) :=
    List.takeWhile_cons_of_pos (by simpa using hc)
  simp only [Uri.RouteKey, hQ, hH, List.map_cons, List.cons_append, List.head?_cons, ne_eq,
    Option.some.injEq, hne, not_false_eq_true]

theorem splitRouteKey_RouteKey {u : Uri} (h : '?' ∉ Uri.host (trimPrefixSlash u)) :
    ((splitHostAndContextPath u).1.map Char.toLower, (splitHostAndContextPath u).2.rdropWhile (· = '/')) =
      splitRouteKey u.RouteKey := by
  rw [splitHostAndContextPath_eq h]
  rcases u with _ | ⟨c, t⟩
  · rfl
  by_cases hc : c = '/'
  · subst hc
    have hk : Uri.RouteKey ('/' :: t) = '/' :: (t.takeWhile (· ≠ '?')).rdropWhile (· = '/') := by
      simp [Uri.RouteKey, List.takeWhile_cons_of_pos (by decide : decide ('/' ≠ '?') = true),
        Uri.host, Uri.path]
    simp [hk, splitRouteKey, trimPrefixSlash, List.rdropWhile_idempotent]
  by_cases hq : c = '?'
  · subst hq
    simp [trimPrefixSlash, Uri.host] at h
  have htrim : trimPrefixSlash (c :: t) = c :: t := by simp [trimPrefixSlash, hc]
  simp [htrim, splitRouteKey, head_RouteKey hc hq, rdropWhile_cons_rdropWhile]

/-! ## Two spellings of one route key -/

theorem splitHostAndContextPath_of_RouteKey {u1 u2 : Uri} (hk : u1.RouteKey = u2.RouteKey)
    (h1 : '?' ∉ Uri.host (trimPrefixSlash u1)) (h2 : '?' ∉ Uri.host (trimPrefixSlash u2)) :
    (splitHostAndContextPath u1).1.map Char.toLower = (splitHostAndContextPath u2).1.map Char.toLower ∧
      (splitHostAndContextPath u1).2.rdropWhile (· = '/') = (splitHostAndContextPath u2).2.rdropWhile (· = '/') :=
  Prod.mk.inj ((splitRouteKey_RouteKey h1).trans (hk ▸ (splitRouteKey_RouteKey h2).symm))

theorem splitHostAndContextPath_of_RouteKey_sample :
    Uri.RouteKey "A.com/foo/?x=1".toList = Uri.RouteKey "a.com/foo".toList ∧
    '?' ∉ Uri.host (trimPrefixSlash "A.com/foo/?x=1".toList) ∧
    '?' ∉ Uri.host (trimPrefixSlash "a.com/foo".toList) ∧
    ((splitHostAndContextPath "A.com/foo/?x=1".toList).1.map Char.toLower =
        (splitHostAndContextPath "a.com/foo".toList).1.map Char.toLower ∧
      (splitHostAndContextPath "A.com/foo/?x=1".toList).2.rdropWhile (· = '/') =
        (splitHostAndContextPath "a.com/foo".toList).2.rdropWhile (· = '/')) := by
  have hk : Uri.RouteKey "A.com/foo/?x=1".toList = Uri.RouteKey "a.com/foo".toList := by decide
  have h1 : '?' ∉ Uri.host (trimPrefixSlash "A.com/foo/?x=1".toList) := by decide
  have h2 : '?' ∉ Uri.host (trimPrefixSlash "a.com/foo".toList) := by decide
  exact ⟨hk, h1, h2, splitHostAndContextPath_of_RouteKey hk h1 h2⟩

/-- `A.com` and `a.com` share a route key, and so do `a.com?x=/y` and `a.com`,
and the two spellings of proxy_test.go:199-226; yet each pair splits
differently. The pool `A.com` creates is named `A.com`, and the pool
`test/another-path/your_path/` creates answers for `test/another-path/your_path`
with the context path `/another-path/your_path/`. -/
theorem splitHostAndContextPath_spelling :
    Uri.RouteKey "A.com".toList = Uri.RouteKey "a.com".toList ∧
    (splitHostAndContextPath "A.com".toList).1 ≠ (splitHostAndContextPath "a.com".toList).1 ∧
    Uri.RouteKey "a.com?x=/y".toList = Uri.RouteKey "a.com".toList ∧
    (splitHostAndContextPath "a.com?x=/y".toList).2 ≠ (splitHostAndContextPath "a.com".toList).2 ∧
    (((NewRouteRegistry (sampleConfig false 0)).Register "A.com".toList
        (sampleEndpoint "10.0.0.1:8080" 10) 0).byURI.Find "a.com/".toList).map (·.host) =
      some "A.com".toList ∧
    Uri.RouteKey "test/another-path/your_path/".toList = Uri.RouteKey "test/another-path/your_path".toList ∧
    (splitHostAndContextPath "test/another-path/your_path/".toList).2 ≠
      (splitHostAndContextPath "test/another-path/your_path".toList).2 ∧
    (((NewRouteRegistry (sampleConfig false 0)).Register "test/another-path/your_path/".toList
        (sampleEndpoint "10.0.0.1:8080" 10) 0).byURI.Find
          (Uri.RouteKey "test/another-path/your_path".toList)).map (·.contextPath) =
      some "/another-path/your_path/".toList := by
  decide

end Gorouter.Registry
