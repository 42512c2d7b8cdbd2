import Gorouter.Container.Snip

/-!
# Container — EachNodeWithPool

`pruneStaleDroplets` walks the trie with `EachNodeWithPool` and, inside the
callback, calls `Snip`, which deletes nodes from `ChildNodes` maps that the
walk is still ranging over, and cascades into ancestors whose loops are in
progress. Go's map range tolerates this ("if a map entry that has not yet been
reached is removed during iteration, the corresponding iteration value will
not be produced"), and this module proves that the walk is nevertheless the
plain structural recursion one would write without mutation.

`eachNodeWithPoolAt` is the faithful model: a pre-order walk over the whole
trie by path (a path names a node as a Go pointer does: nodes are never moved,
only updated or deleted), the callback acting on the whole trie, each loop
over the children's keys as the map held them when it started and skipping a
key no longer present. `walkNode`/`walkChildren` is the structural recursion
over the tree, and `eachNodeWithPool_eq` says the two agree for the callbacks
the registry uses (`poolCallback`): the faithful walk calls the callback at
every node with a pool exactly once, in pre-order (`poolPaths`), and leaves
the trie the structural recursion computes.
-/

namespace Gorouter.Container

open Gorouter.Route

namespace Trie

/-! ## The faithful walk -/

/-- Modelled from the spec: the loop of `Trie.EachNodeWithPool` over a node's
`ChildNodes`, at the node `path`: `keys` are the map's keys when the loop started, and a key
whose entry has been deleted since is skipped. `visit` is the recursive call;
the accumulator is the trie and the paths `fn` has been called at. -/
def rangeChildren (visit : Trie → List Seg → Trie × List (List Seg)) (path : List Seg) :
    List Seg → Trie × List (List Seg) → Trie × List (List Seg)
  | [], acc => acc
  | k :: ks, acc =>
    rangeChildren visit path ks
      (if (acc.1.get (path ++ [k])).isSome then
        ((visit acc.1 (path ++ [k])).1, acc.2 ++ (visit acc.1 (path ++ [k])).2)
      else acc)

/-- The keys of the node at `path`, when there is one. -/
def keysAt (t : Trie) (path : List Seg) : List Seg :=
  ((t.get path).map fun n => n.children.map Prod.fst).getD []

/-- Modelled from the spec: `Trie.EachNodeWithPool(fn)`, absent from the
sources, on the node at `path`: `fn` at the node when it carries a pool, then
the loop over its children. `fn` acts on the whole
trie, as Go's callback does through the node's pointers. The walk returns the
trie and the paths `fn` was called at, in order; `fuel` bounds the depth. -/
def eachNodeWithPoolAt (fn : Trie → List Seg → Trie) :
    Nat → Trie → List Seg → Trie × List (List Seg)
  | 0, root, _ => (root, [])
  | fuel + 1, root, path =>
    match root.get path with
    | none => (root, [])
    | some n =>
      let start : Trie × List (List Seg) :=
        if n.pool.isSome then (fn root path, [path]) else (root, [])
      rangeChildren (eachNodeWithPoolAt fn fuel) path (keysAt start.1 path) start

mutual
/-- The number of levels of the trie, the walk's fuel. -/
def height : Trie → Nat
  | node _ cs => heightChildren cs + 1

/-- The largest height among the children. -/
def heightChildren : List (Seg × Trie) → Nat
  | [] => 0
  | (_, c) :: rest => max c.height (heightChildren rest)
end

/-- Modelled from the spec: `Trie.EachNodeWithPool(fn)` from the root. -/
def EachNodeWithPool (t : Trie) (fn : Trie → List Seg → Trie) : Trie × List (List Seg) :=
  eachNodeWithPoolAt fn t.height t []

/-- The callbacks of the registry: `f` updates the node's pool in place, then
the node is `Snip`ped when `snipIf` holds of the updated pool. -/
def poolCallback (f : EndpointPool → EndpointPool) (snipIf : EndpointPool → Bool)
    (root : Trie) (path : List Seg) : Trie :=
  match root.get path with
  | some (node (some p) cs) =>
    if snipIf (f p) then (root.set path (node (some (f p)) cs)).Snip path
    else root.set path (node (some (f p)) cs)
  | _ => root

/-! ## The structural walk -/

section Structural

variable (f : EndpointPool → EndpointPool) (snipIf : EndpointPool → Bool)

mutual
/-- The walk on a node below the root by structural recursion: the updated
node, or `none` when it is snipped, by its own callback (only a leaf can be)
or by the cascade once its last child is gone. -/
def walkNode : Trie → Option Trie
  | node p cs =>
    if p.any (fun q => snipIf (f q)) && (node (p.map f) cs).Snippable then none
    else if (walkChildren cs).2 && (node (p.map f) (walkChildren cs).1).Snippable then none
    else some (node (p.map f) (walkChildren cs).1)

/-- The walk on each child: the children that stay, updated, and whether any
was removed. -/
def walkChildren : List (Seg × Trie) → List (Seg × Trie) × Bool
  | [] => ([], false)
  | (k, c) :: rest =>
    match walkNode c with
    | some c' => ((k, c') :: (walkChildren rest).1, (walkChildren rest).2)
    | none => ((walkChildren rest).1, true)
end

/-- The walk from the root, which is never removed. -/
def walkRoot : Trie → Trie
  | node p cs => node (p.map f) (walkChildren f snipIf cs).1

end Structural

mutual
/-- The paths of the nodes carrying a pool, in pre-order, below `pre`. -/
def poolPaths (pre : List Seg) : Trie → List (List Seg)
  | node p cs => (if p.isSome then [pre] else []) ++ poolPathsChildren pre cs

/-- `poolPaths` over the children, in order. -/
def poolPathsChildren (pre : List Seg) : List (Seg × Trie) → List (List Seg)
  | [] => []
  | (k, c) :: rest => poolPaths (pre ++ [k]) c ++ poolPathsChildren pre rest
end

/-- The node that ends up at `path`: the replacement, or the removal with its
cascade. -/
def place (root : Trie) (path : List Seg) : Option Trie → Trie
  | some n => root.set path n
  | none => root.removeAt path

/-! ## Facts the refinement uses -/

theorem Snippable_node (p : Option EndpointPool) (cs : List (Seg × Trie)) :
    (node p cs).Snippable = (p.all (·.IsEmpty) && cs.isEmpty) := rfl

theorem height_pos (t : Trie) : 0 < t.height := by
  cases t; simp [height]

theorem height_lt_of_mem {p : Option EndpointPool} {cs : List (Seg × Trie)} {kc : Seg × Trie}
    (h : kc ∈ cs) : kc.2.height < (node p cs).height := by
  have hle : ∀ cs : List (Seg × Trie), kc ∈ cs → kc.2.height ≤ heightChildren cs := by
    intro cs h
    induction cs with
    | nil => simp at h
    | cons kd rest ih =>
      obtain ⟨k, d⟩ := kd
      simp only [List.mem_cons] at h
      rcases h with rfl | h
      · simp [heightChildren]
      · simp only [heightChildren]; exact le_trans (ih h) (Nat.le_max_right _ _)
  simp only [height]
  exact Nat.lt_succ_of_le (hle cs h)

theorem childAt_append_cons {k : Seg} {done rest : List (Seg × Trie)} (c : Trie)
    (hk : k ∉ done.map Prod.fst) : childAt k (done ++ (k, c) :: rest) = some c := by
  induction done with
  | nil => simp [childAt]
  | cons kd done ih =>
    simp only [List.map_cons, List.mem_cons, not_or] at hk
    simp [childAt, Ne.symm hk.1, ih hk.2]

theorem setChild_append_cons {k : Seg} {done rest : List (Seg × Trie)} (c c' : Trie)
    (hk : k ∉ done.map Prod.fst) :
    setChild k c' (done ++ (k, c) :: rest) = done ++ (k, c') :: rest := by
  induction done with
  | nil => simp [setChild]
  | cons kd done ih =>
    simp only [List.map_cons, List.mem_cons, not_or] at hk
    simp [setChild, Ne.symm hk.1, ih hk.2]

theorem eraseChild_of_not_mem {k : Seg} {cs : List (Seg × Trie)} (hk : k ∉ cs.map Prod.fst) :
    eraseChild k cs = cs :=
  List.filter_eq_self.mpr fun kc hkc => by
    simp only [ne_eq, decide_eq_true_eq]
    rintro rfl
    exact hk (List.mem_map_of_mem _ hkc)

theorem eraseChild_append_cons {k : Seg} {done rest : List (Seg × Trie)} (c : Trie)
    (hk : k ∉ (done ++ rest).map Prod.fst) :
    eraseChild k (done ++ (k, c) :: rest) = done ++ rest := by
  rw [List.map_append, List.mem_append, not_or] at hk
  have hcons : eraseChild k ((k, c) :: rest) = eraseChild k rest := by
    simp [eraseChild, List.filter_cons]
  rw [show eraseChild k (done ++ (k, c) :: rest) = eraseChild k done ++ eraseChild k ((k, c) :: rest)
    from List.filter_append _ _, hcons, eraseChild_of_not_mem hk.1, eraseChild_of_not_mem hk.2]

section Structural

variable (f : EndpointPool → EndpointPool) (snipIf : EndpointPool → Bool)

/-- With no child removed, every child stays. -/
theorem length_walkChildren {cs : List (Seg × Trie)} (h : (walkChildren f snipIf cs).2 = false) :
    (walkChildren f snipIf cs).1.length = cs.length := by
  induction cs with
  | nil => rfl
  | cons kc rest ih =>
    obtain ⟨k, c⟩ := kc
    cases hc : walkNode f snipIf c with
    | none => simp [walkChildren, hc] at h
    | some c' =>
      simp only [walkChildren, hc] at h ⊢
      simp [ih h]

/-- With no child removed, the walk leaves children exactly when there were. -/
theorem isEmpty_walkChildren {cs : List (Seg × Trie)} (h : (walkChildren f snipIf cs).2 = false) :
    (walkChildren f snipIf cs).1.isEmpty = cs.isEmpty :=
  Bool.eq_iff_iff.mpr (by simp only [List.isEmpty_iff_length_eq_zero, length_walkChildren f snipIf h])

/-- The registry's callback at a node with a pool: the pool is updated in
place, and the node removed (with the cascade) when it is not the root and
the snip condition holds of a snippable node. -/
theorem poolCallback_eq {root : Trie} {path : List Seg} {q : EndpointPool}
    {cs : List (Seg × Trie)} (h : root.get path = some (node (some q) cs)) :
    poolCallback f snipIf root path =
      if path ≠ [] ∧ snipIf (f q) ∧ (node (some (f q)) cs).Snippable then root.removeAt path
      else root.set path (node (some (f q)) cs) := by
  have hs : (root.get path).isSome := by simp [h]
  unfold poolCallback
  rw [h]
  by_cases hq : snipIf (f q)
  · simp only [hq, if_true, Snip, get_set_self hs, Option.any_some]
    by_cases hn : (node (some (f q)) cs).Snippable
    · cases path with
      | nil => simp [hn, removeAt, set]
      | cons s ss => simp [hn, removeAt_set hs]
    · simp [hn]
  · simp [hq]

/-- The loop over a node's children, with `done` the children already walked
and `rest` those still to come: it ends with the structural walk of `rest`,
and the node removed if a removal in `rest` left it snippable. -/
theorem rangeChildren_eq {visit : Trie → List Seg → Trie × List (List Seg)} {root : Trie}
    {path : List Seg} (hroot : (root.get path).isSome) (p' : Option EndpointPool) :
    ∀ (rest done : List (Seg × Trie)) (log : List (List Seg)),
      ((done ++ rest).map Prod.fst).Nodup →
      (∀ kc ∈ rest, ∀ r : Trie, r.get (path ++ [kc.1]) = some kc.2 →
        visit r (path ++ [kc.1]) =
          (place r (path ++ [kc.1]) (walkNode f snipIf kc.2), poolPaths (path ++ [kc.1]) kc.2)) →
      rangeChildren visit path (rest.map Prod.fst) (root.set path (node p' (done ++ rest)), log) =
        (if path ≠ [] ∧ (walkChildren f snipIf rest).2 ∧
            (node p' (done ++ (walkChildren f snipIf rest).1)).Snippable
          then root.removeAt path
          else root.set path (node p' (done ++ (walkChildren f snipIf rest).1)),
         log ++ poolPathsChildren path rest) := by
  intro rest
  induction rest with
  | nil => intro done log _ _; simp [rangeChildren, walkChildren, poolPathsChildren]
  | cons kc rest ih =>
    obtain ⟨k, c⟩ := kc
    intro done log hnd hvisit
    have hnd' : (done.map Prod.fst ++ k :: rest.map Prod.fst).Nodup := by simpa using hnd
    have hk : k ∉ (done ++ rest).map Prod.fst := by
      rw [List.map_append, List.mem_append, not_or]
      exact ⟨fun h => List.disjoint_of_nodup_append hnd' h (List.mem_cons_self _ _),
        (List.nodup_cons.mp hnd'.of_append_right).1⟩
    have hkd : k ∉ done.map Prod.fst := fun h => hk (by
      rw [List.map_append]; exact List.mem_append_left _ h)
    have hget : (root.set path (node p' (done ++ (k, c) :: rest))).get (path ++ [k]) = some c := by
      rw [get_set_child hroot, children_node, childAt_append_cons c hkd]
    have hrest : ∀ kc ∈ rest, ∀ r : Trie, r.get (path ++ [kc.1]) = some kc.2 →
        visit r (path ++ [kc.1]) =
          (place r (path ++ [kc.1]) (walkNode f snipIf kc.2), poolPaths (path ++ [kc.1]) kc.2) :=
      fun kc hkc => hvisit kc (List.mem_cons_of_mem _ hkc)
    simp only [List.map_cons, rangeChildren, hget, Option.isSome_some, if_true,
      hvisit (k, c) (List.mem_cons_self _ _) _ hget, poolPathsChildren, ← List.append_assoc]
    cases hc : walkNode f snipIf c with
    | some c' =>
      simp only [place, set_set_child hroot, children_node, pool_node, setChild_append_cons c c' hkd,
        set_set]
      have := ih (done ++ [(k, c')]) (log ++ poolPaths (path ++ [k]) c)
        (by simpa using hnd) hrest
      simp only [List.append_assoc, List.singleton_append] at this
      simp [walkChildren, hc, this]
    | none =>
      have hsome : (childAt k (node p' (done ++ (k, c) :: rest)).children).isSome := by
        simp [childAt_append_cons c hkd]
      simp only [place, removeAt_set_child hroot _ hsome, children_node, pool_node,
        eraseChild_append_cons c hk]
      by_cases hrm : path ≠ [] ∧ (node p' (done ++ rest)).Snippable
      · have hnil : done = [] ∧ rest = [] := by
          have := hrm.2
          simp only [Snippable_node, Bool.and_eq_true, List.isEmpty_iff, List.append_eq_nil] at this
          exact this.2
        obtain ⟨rfl, rfl⟩ := hnil
        simp [hrm, rangeChildren, walkChildren, hc, poolPathsChildren]
      · rw [if_neg hrm, ih done _ (by simpa using hnd.sublist (by simp)) hrest]
        simp only [walkChildren, hc, true_and]
        congr 1
        by_cases hw : (walkChildren f snipIf rest).2
        · simp [hw]
        · have hsn : (node p' (done ++ (walkChildren f snipIf rest).1)).Snippable =
              (node p' (done ++ rest)).Snippable := by
            cases done <;> simp [Snippable_node, isEmpty_walkChildren f snipIf (Bool.eq_false_iff.mpr hw)]
          simp [hw, hsn, hrm]

/-- The faithful walk below the root is the structural one: the node ends up
replaced or removed as `walkNode` says, and the callback ran at the pool paths
of its subtree, in pre-order. -/
theorem eachNodeWithPoolAt_eq (fuel : Nat) : ∀ (root : Trie) (path : List Seg) (n : Trie),
    root.get path = some n → n.WF → n.height ≤ fuel → path ≠ [] →
    eachNodeWithPoolAt (poolCallback f snipIf) fuel root path =
      (root.place path (walkNode f snipIf n), poolPaths path n) := by
  induction fuel with
  | zero => intro root path n _ _ hh _; have := height_pos n; omega
  | succ fuel ih =>
    intro root path n hget hwf hh hp
    obtain ⟨p, cs⟩ := n
    have hs : (root.get path).isSome := by simp [hget]
    have hnd : (cs.map Prod.fst).Nodup := ((WF_node p cs).mp hwf).1
    have hvisit : ∀ kc ∈ cs, ∀ r : Trie, r.get (path ++ [kc.1]) = some kc.2 →
        eachNodeWithPoolAt (poolCallback f snipIf) fuel r (path ++ [kc.1]) =
          (r.place (path ++ [kc.1]) (walkNode f snipIf kc.2), poolPaths (path ++ [kc.1]) kc.2) :=
      fun kc hkc r hr => ih r _ kc.2 hr (((WF_node p cs).mp hwf).2 kc hkc)
        (by have := height_lt_of_mem (p := p) hkc; omega) (by simp)
    have hloop := fun log => @rangeChildren_eq f snipIf
      (eachNodeWithPoolAt (poolCallback f snipIf) fuel) root path hs (p.map f) cs [] log
      (by simpa using hnd) hvisit
    simp only [List.nil_append] at hloop
    cases p with
    | none =>
      have hkeys : keysAt root path = cs.map Prod.fst := by simp [keysAt, hget]
      have hloop' := hloop []
      rw [Option.map_none', set_get_self hget] at hloop'
      rw [eachNodeWithPoolAt, hget]
      simp only [pool_node, Option.isSome_none, Bool.false_eq_true, if_false, hkeys, hloop']
      by_cases hc : (walkChildren f snipIf cs).2 = true ∧
          (node none (walkChildren f snipIf cs).1).Snippable = true <;>
        simp [hc, hp, place, walkNode, poolPaths]
    | some q =>
      simp only [Option.map_some'] at hloop
      rw [eachNodeWithPoolAt, hget]
      simp only [pool_node, Option.isSome_some, if_true, poolCallback_eq f snipIf hget]
      by_cases hown : snipIf (f q) ∧ (node (some (f q)) cs).Snippable
      · have hcs : cs = [] := by
          have := hown.2
          simp only [Snippable_node, Bool.and_eq_true, List.isEmpty_iff] at this
          exact this.2
        subst hcs
        simp [hp, hown, keysAt, get_removeAt root hp, rangeChildren, walkNode, place, poolPaths,
          poolPathsChildren]
      · have hkeys : keysAt (root.set path (node (some (f q)) cs)) path = cs.map Prod.fst := by
          simp [keysAt, get_set_self hs]
        simp only [ne_eq, hp, not_false_eq_true, true_and, hown, if_false, hkeys, hloop]
        have hown' : (snipIf (f q) && (node (some (f q)) cs).Snippable) = false := by
          simpa using hown
        by_cases hc : (walkChildren f snipIf cs).2 = true ∧
            (node (some (f q)) (walkChildren f snipIf cs).1).Snippable = true <;>
          simp [hc, hp, hown', place, walkNode, poolPaths]

/-- `EachNodeWithPool` with a registry callback, on a well-formed trie: the
trie `walkRoot` computes, and one call at each node with a pool, in
pre-order. -/
theorem EachNodeWithPool_eq {t : Trie} (ht : t.WF) :
    t.EachNodeWithPool (poolCallback f snipIf) = (walkRoot f snipIf t, poolPaths [] t) := by
  obtain ⟨p, cs⟩ := t
  have hnd : (cs.map Prod.fst).Nodup := ((WF_node p cs).mp ht).1
  have hvisit : ∀ kc ∈ cs, ∀ r : Trie, r.get ([] ++ [kc.1]) = some kc.2 →
      eachNodeWithPoolAt (poolCallback f snipIf) (heightChildren cs) r ([] ++ [kc.1]) =
        (r.place ([] ++ [kc.1]) (walkNode f snipIf kc.2), poolPaths ([] ++ [kc.1]) kc.2) :=
    fun kc hkc r hr => eachNodeWithPoolAt_eq f snipIf _ r _ kc.2 hr (((WF_node p cs).mp ht).2 kc hkc)
      (by have := height_lt_of_mem (p := p) hkc; simp only [height] at this; omega) (by simp)
  have hloop := fun log => @rangeChildren_eq f snipIf
    (eachNodeWithPoolAt (poolCallback f snipIf) (heightChildren cs))
    (node (p.map f) cs) [] rfl (p.map f) cs [] log (by simpa using hnd) hvisit
  simp only [List.nil_append, ne_eq, not_true_eq_false, false_and, if_false, set] at hloop
  cases p with
  | none =>
    simp only [EachNodeWithPool, height, eachNodeWithPoolAt, get_nil, pool_node, Option.isSome_none,
      Bool.false_eq_true, if_false, keysAt, Option.map_some', Option.getD_some, children_node]
    simpa [walkRoot, poolPaths] using hloop []
  | some q =>
    have hcb : poolCallback f snipIf (node (some q) cs) [] = node (some (f q)) cs := by
      simp [poolCallback_eq f snipIf (get_nil _), set]
    simp only [EachNodeWithPool, height, eachNodeWithPoolAt, get_nil, pool_node, Option.isSome_some,
      if_true, hcb, keysAt, Option.map_some', Option.getD_some, children_node]
    simpa [walkRoot, poolPaths] using hloop [[]]

end Structural

end Trie

end Gorouter.Container
