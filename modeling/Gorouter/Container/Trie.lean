import Gorouter.Route.Pool

/-!
# Container — Trie

The route table. Go's `container.Trie` is not among the sources; it is
modelled from the specification (§3): "Nodes keyed by path segments under a
root keyed by host. A node may carry a pool. Operations: `Insert(key, pool)`,
`Find(key)` exact, `MatchUri(key)` longest-prefix, `EachNodeWithPool`, `Snip`
removes a node iff it has no pool and no children. Invariant: after `Snip`
cascades upward, no empty leaf remains." The registry also calls `Delete`,
which the spec describes only through its caller ("deletes the pool"): it
clears the pool and removes the pool-less, childless nodes it leaves behind.

A node's `ChildNodes` map is an association list. Every operation recurses
structurally on the segment path, as `HeapT.getB`/`setB` do on bit paths,
and is characterised by `findPool`, the pool at a path: each gets one frame
lemma saying which paths it changes. `WF` (distinct keys at every node, as in
a Go map) is the one structural invariant; the registry carries it.
-/

namespace Gorouter.Container

open Gorouter.Route

/-- A path segment: the host at the first level, a path segment below. -/
abbrev Seg := List Char

/-- Modelled from the spec: `container.Trie`, absent from the sources. A node
with its optional pool and its `ChildNodes`. -/
inductive Trie where
  | node (pool : Option EndpointPool) (children : List (Seg × Trie))

namespace Trie

/-- The node's `Pool`. -/
def pool : Trie → Option EndpointPool
  | node p _ => p

/-- The node's `ChildNodes`. -/
def children : Trie → List (Seg × Trie)
  | node _ cs => cs

@[simp] theorem pool_node (p : Option EndpointPool) (cs : List (Seg × Trie)) :
    (node p cs).pool = p := rfl

@[simp] theorem children_node (p : Option EndpointPool) (cs : List (Seg × Trie)) :
    (node p cs).children = cs := rfl

/-- Modelled from the spec: `NewTrie()`, a root with no pool and no children. -/
def empty : Trie := node none []

instance : Inhabited Trie := ⟨empty⟩

/-! ## The children map -/

/-- `ChildNodes[s]`. -/
def childAt (s : Seg) : List (Seg × Trie) → Option Trie
  | [] => none
  | (k, c) :: rest => if k = s then some c else childAt s rest

/-- `ChildNodes[s] = c` for a key already present. -/
def setChild (s : Seg) (c : Trie) : List (Seg × Trie) → List (Seg × Trie)
  | [] => []
  | (k, d) :: rest => if k = s then (k, c) :: rest else (k, d) :: setChild s c rest

/-- `delete(ChildNodes, s)`. -/
def eraseChild (s : Seg) (cs : List (Seg × Trie)) : List (Seg × Trie) :=
  cs.filter (·.1 ≠ s)

theorem childAt_setChild (s s' : Seg) (c : Trie) (cs : List (Seg × Trie)) :
    childAt s' (setChild s c cs) = if s' = s then (childAt s cs).map (fun _ => c) else childAt s' cs := by
  induction cs with
  | nil => simp [setChild, childAt]
  | cons kd rest ih =>
    obtain ⟨k, d⟩ := kd
    by_cases hk : k = s
    · subst hk
      by_cases hs : s' = k
      · subst hs; simp [setChild, childAt]
      · simp [setChild, childAt, hs, Ne.symm hs]
    · simp only [setChild, hk, if_false, childAt, ih]
      by_cases hs : s' = s
      · subst hs; simp [hk]
      · simp [hs]

theorem childAt_eraseChild (s s' : Seg) (cs : List (Seg × Trie)) :
    childAt s' (eraseChild s cs) = if s' = s then none else childAt s' cs := by
  induction cs with
  | nil => simp [eraseChild, childAt]
  | cons kd rest ih =>
    obtain ⟨k, d⟩ := kd
    simp only [eraseChild] at ih ⊢
    by_cases hk : k = s <;> by_cases hk' : k = s' <;> simp_all [childAt, List.filter_cons]

theorem childAt_append_of_none {s : Seg} {cs : List (Seg × Trie)} (h : childAt s cs = none)
    (s' : Seg) (c : Trie) :
    childAt s' (cs ++ [(s, c)]) = if s' = s then some c else childAt s' cs := by
  induction cs with
  | nil => by_cases hs : s = s' <;> simp [childAt, hs, eq_comm]
  | cons kd rest ih =>
    obtain ⟨k, d⟩ := kd
    by_cases hk : k = s
    · simp [childAt, hk] at h
    · simp only [childAt, hk, if_false] at h
      by_cases hk' : k = s' <;> simp_all [childAt]

theorem keys_setChild (s : Seg) (c : Trie) (cs : List (Seg × Trie)) :
    (setChild s c cs).map Prod.fst = cs.map Prod.fst := by
  induction cs with
  | nil => rfl
  | cons kd rest ih => by_cases hk : kd.1 = s <;> simp [setChild, hk, ih]

theorem mem_setChild {s : Seg} {c : Trie} {cs : List (Seg × Trie)} {kc : Seg × Trie}
    (h : kc ∈ setChild s c cs) : kc = (s, c) ∨ kc ∈ cs := by
  induction cs with
  | nil => simp [setChild] at h
  | cons kd rest ih =>
    by_cases hk : kd.1 = s
    · simp only [setChild, hk, if_true, List.mem_cons] at h
      rcases h with rfl | h
      · simp [hk]
      · simp [h]
    · simp only [setChild, hk, if_false, List.mem_cons] at h
      rcases h with rfl | h
      · simp
      · rcases ih h with h | h <;> simp [h]

theorem mem_of_childAt {s : Seg} {cs : List (Seg × Trie)} {c : Trie} (h : childAt s cs = some c) :
    (s, c) ∈ cs := by
  induction cs with
  | nil => simp [childAt] at h
  | cons kd rest ih =>
    obtain ⟨k, d⟩ := kd
    by_cases hk : k = s
    · simp only [childAt, hk, if_true, Option.some.injEq] at h
      simp [hk, h]
    · simp only [childAt, hk, if_false] at h
      exact List.mem_cons_of_mem _ (ih h)

/-! ## Paths -/

/-- The node at `path` below this one. -/
def get (t : Trie) : List Seg → Option Trie
  | [] => some t
  | s :: ss =>
    match childAt s t.children with
    | some c => c.get ss
    | none => none

/-- The pool at `path`, if the node exists and carries one. -/
def findPool (t : Trie) (path : List Seg) : Option EndpointPool :=
  (t.get path).bind pool

@[simp] theorem get_nil (t : Trie) : t.get [] = some t := rfl

theorem get_cons (p : Option EndpointPool) (cs : List (Seg × Trie)) (s : Seg) (ss : List Seg) :
    (node p cs).get (s :: ss) = (childAt s cs).bind (·.get ss) := by
  simp only [get, children_node]
  split <;> simp_all

@[simp] theorem findPool_nil (t : Trie) : t.findPool [] = t.pool := rfl

theorem findPool_cons (p : Option EndpointPool) (cs : List (Seg × Trie)) (s : Seg)
    (ss : List Seg) :
    (node p cs).findPool (s :: ss) = (childAt s cs).bind (·.findPool ss) := by
  simp only [findPool, get_cons]
  cases childAt s cs <;> rfl

@[simp] theorem findPool_empty (path : List Seg) : empty.findPool path = none := by
  cases path <;> rfl

/-! ## Insert -/

/-- Modelled from the spec: `Trie.Insert` on a segment path. Missing nodes are
created, and the last one receives the pool. -/
def insertPath : Trie → List Seg → EndpointPool → Trie
  | node _ cs, [], v => node (some v) cs
  | node p cs, s :: ss, v =>
    match childAt s cs with
    | some c => node p (setChild s (c.insertPath ss v) cs)
    | none => node p (cs ++ [(s, empty.insertPath ss v)])

/-- Insert changes the pool at its own path and nowhere else. -/
theorem findPool_insertPath (t : Trie) (path q : List Seg) (v : EndpointPool) :
    (t.insertPath path v).findPool q = if q = path then some v else t.findPool q := by
  induction path generalizing t q with
  | nil =>
    obtain ⟨p, cs⟩ := t
    cases q with
    | nil => simp [insertPath]
    | cons s' ss' => simp [insertPath, findPool_cons]
  | cons s ss ih =>
    obtain ⟨p, cs⟩ := t
    cases q with
    | nil => cases h : childAt s cs <;> simp [insertPath, h]
    | cons s' ss' =>
      cases h : childAt s cs with
      | some c =>
        simp only [insertPath, h, findPool_cons, childAt_setChild]
        by_cases hs : s' = s
        · subst hs; simp [h, ih]
        · simp [hs]
      | none =>
        simp only [insertPath, h, findPool_cons, childAt_append_of_none h]
        by_cases hs : s' = s
        · subst hs; simp [h, ih]
        · simp [hs]

/-! ## Delete -/

/-- Modelled from the spec: `Trie.Delete` on a segment path. The pool is cleared
and the nodes left without pool and children are removed, bottom-up. -/
def deletePath : Trie → List Seg → Trie
  | node _ cs, [] => node none cs
  | node p cs, s :: ss =>
    match childAt s cs with
    | some c =>
      if (c.deletePath ss).pool.isNone && (c.deletePath ss).children.isEmpty then
        node p (eraseChild s cs)
      else node p (setChild s (c.deletePath ss) cs)
    | none => node p cs

/-- A node without pool and children holds no pool anywhere below. -/
theorem findPool_of_bare {c : Trie} (h : (c.pool.isNone && c.children.isEmpty) = true)
    (q : List Seg) : c.findPool q = none := by
  obtain ⟨p, cs⟩ := c
  simp only [pool_node, children_node, Bool.and_eq_true, Option.isNone_iff_eq_none,
    List.isEmpty_iff] at h
  obtain ⟨rfl, rfl⟩ := h
  cases q <;> simp [findPool_cons, childAt]

/-- Delete clears the pool at its own path and changes no other. -/
theorem findPool_deletePath (t : Trie) (path q : List Seg) :
    (t.deletePath path).findPool q = if q = path then none else t.findPool q := by
  induction path generalizing t q with
  | nil =>
    obtain ⟨p, cs⟩ := t
    cases q with
    | nil => simp [deletePath]
    | cons s' ss' => simp [deletePath, findPool_cons]
  | cons s ss ih =>
    obtain ⟨p, cs⟩ := t
    cases h : childAt s cs with
    | none =>
      cases q with
      | nil => simp [deletePath, h]
      | cons s' ss' =>
        simp only [deletePath, h, findPool_cons, List.cons.injEq]
        by_cases hs : s' = s
        · subst hs; simp [h]
        · simp [hs]
    | some c =>
      cases q with
      | nil => simp only [deletePath, h]; split <;> simp
      | cons s' ss' =>
        simp only [deletePath, h, List.cons.injEq]
        split
        · rename_i hbare
          simp only [findPool_cons, childAt_eraseChild]
          by_cases hs : s' = s
          · subst hs
            have hc := findPool_of_bare hbare ss'
            rw [ih] at hc
            by_cases hq : ss' = ss
            · simp [hq]
            · simp_all
          · simp [hs]
        · simp only [findPool_cons, childAt_setChild]
          by_cases hs : s' = s
          · subst hs; simp [h, ih]
          · simp [hs]

/-! ## MatchUri -/

/-- Modelled from the spec: `Trie.MatchUri` on a segment path, the pool of the
deepest node along the path that carries one ("longest-prefix"). -/
def matchPath : Trie → List Seg → Option EndpointPool
  | node p _, [] => p
  | node p cs, s :: ss =>
    match childAt s cs with
    | some c => (c.matchPath ss).or p
    | none => p

/-- A pool at exactly the path is the longest match. -/
theorem matchPath_of_findPool {t : Trie} {P : List Seg} {q : EndpointPool} (h : t.findPool P = some q) :
    t.matchPath P = some q := by
  induction P generalizing t with
  | nil => obtain ⟨p, cs⟩ := t; exact h
  | cons s ss ih =>
    obtain ⟨p, cs⟩ := t
    rw [findPool_cons] at h
    obtain ⟨c, hc, hq⟩ := Option.bind_eq_some.mp h
    simp only [matchPath, hc, ih hq, Option.or_some]

/-- The longest match is the pool at a prefix of the path. -/
theorem exists_findPool_of_matchPath {t : Trie} {P : List Seg} {q : EndpointPool}
    (h : t.matchPath P = some q) : ∃ Q, Q <+: P ∧ t.findPool Q = some q := by
  induction P generalizing t with
  | nil => obtain ⟨p, cs⟩ := t; exact ⟨[], List.prefix_refl _, h⟩
  | cons s ss ih =>
    obtain ⟨p, cs⟩ := t
    cases hc : childAt s cs with
    | none =>
      simp only [matchPath, hc] at h
      exact ⟨[], List.nil_prefix, h⟩
    | some c =>
      simp only [matchPath, hc] at h
      rcases Option.or_eq_some.mp h with h | ⟨-, h⟩
      · obtain ⟨Q, hQ, hq⟩ := ih h
        exact ⟨s :: Q, List.cons_prefix_cons.mpr ⟨rfl, hQ⟩, by rw [findPool_cons, hc]; exact hq⟩
      · exact ⟨[], List.nil_prefix, h⟩

/-- A trie without pools matches nothing. -/
theorem matchPath_eq_none {t : Trie} (h : ∀ Q, t.findPool Q = none) (P : List Seg) :
    t.matchPath P = none := by
  cases hm : t.matchPath P with
  | none => rfl
  | some q =>
    obtain ⟨Q, -, hq⟩ := exists_findPool_of_matchPath hm
    rw [h Q] at hq
    cases hq

/-- The longest match depends on the pools at the paths only, not on the
nodes that carry none. -/
theorem matchPath_congr {t t' : Trie} (h : ∀ Q, t.findPool Q = t'.findPool Q) (P : List Seg) :
    t.matchPath P = t'.matchPath P := by
  induction P generalizing t t' with
  | nil => obtain ⟨p, cs⟩ := t; obtain ⟨p', cs'⟩ := t'; exact h []
  | cons s ss ih =>
    obtain ⟨p, cs⟩ := t
    obtain ⟨p', cs'⟩ := t'
    obtain rfl : p = p' := h []
    have hc : ∀ Q, (childAt s cs).bind (·.findPool Q) = (childAt s cs').bind (·.findPool Q) := fun Q => by
      simpa only [findPool_cons] using h (s :: Q)
    cases hcs : childAt s cs <;> cases hcs' : childAt s cs' <;>
      simp only [hcs, hcs', Option.none_bind, Option.some_bind] at hc <;> simp only [matchPath, hcs, hcs']
    · rw [matchPath_eq_none (fun Q => (hc Q).symm) ss, Option.none_or]
    · rw [matchPath_eq_none hc ss, Option.none_or]
    · rw [ih hc]

end Trie

/-! ## Keys and the Go-facing operations -/

/-- Modelled from the spec ("nodes keyed by path segments under a root keyed
by host"): the trie path of a key, its host and then its path's segments. -/
def segments (k : Uri) : List Seg :=
  Uri.host k :: match (Uri.path k).drop 1 with
    | [] => []
    | rest => rest.splitOn '/'

/-- The key a trie path spells. -/
def unsegments : List Seg → Uri
  | [] => []
  | h :: rest => h ++ '/' :: ['/'].intercalate rest

/-- A route key is spelled back from its trie path, so distinct route keys
have distinct trie paths. -/
theorem unsegments_segments_RouteKey (u : Uri) :
    unsegments (segments u.RouteKey) = u.RouteKey := by
  conv_rhs => rw [u.RouteKey_eq_host_path]
  simp only [segments, Uri.path_RouteKey, List.drop_one, List.tail_cons, unsegments]
  generalize List.rdropWhile _ _ = rest
  cases rest with
  | nil => rfl
  | cons c cs => simp only [List.intercalate_splitOn]

theorem segments_RouteKey_inj {u u' : Uri} (h : segments u.RouteKey = segments u'.RouteKey) :
    u.RouteKey = u'.RouteKey := by
  rw [← unsegments_segments_RouteKey u, h, unsegments_segments_RouteKey]

namespace Trie

/-- Modelled from the spec: `Trie.Find(key)`, absent from the sources, the pool
at exactly this key. -/
def Find (t : Trie) (k : Uri) : Option EndpointPool := t.findPool (segments k)

/-- Modelled from the spec: `Trie.Insert(key, pool)`, absent from the sources. -/
def Insert (t : Trie) (k : Uri) (v : EndpointPool) : Trie := t.insertPath (segments k) v

/-- Modelled from the spec: `Trie.Delete(key)`, absent from the sources. -/
def Delete (t : Trie) (k : Uri) : Trie := t.deletePath (segments k)

/-- Modelled from the spec: `Trie.MatchUri(key)`, absent from the sources. -/
def MatchUri (t : Trie) (k : Uri) : Option EndpointPool := t.matchPath (segments k)

/-- On route keys, `Delete` is a point removal from `Find`. -/
theorem Find_Delete (t : Trie) (k u : Uri) :
    (t.Delete k.RouteKey).Find u.RouteKey =
      if u.RouteKey = k.RouteKey then none else t.Find u.RouteKey := by
  simp only [Find, Delete, findPool_deletePath]
  by_cases h : u.RouteKey = k.RouteKey
  · simp [h]
  · have hs : segments u.RouteKey ≠ segments k.RouteKey := fun h' => h (segments_RouteKey_inj h')
    simp [h, hs]

end Trie

end Gorouter.Container
