import Gorouter.Container.Trie

/-!
# Container — Snip and in-place updates

Go's `Snip` "removes a node iff it has no pool and no children": when the
node's pool is nil or empty and it is a leaf, `Snip` deletes it from its
parent's `ChildNodes` and calls `Snip` on the parent, up to (never including)
the root. Here that deletion with its upward cascade is `removeAt`, and `set`
is Go's in-place update of the node at a path. The lemmas below say how the
two compose along a path: replacing a node then acting at it or at one of its
children is the same as acting on the replaced node. The walk of
`EachNodeWithPool` (`Container.Walk`) is proved from these alone.

`WF` is the shape every Go trie has: the keys of each `ChildNodes` map are
distinct.
-/

namespace Gorouter.Container

open Gorouter.Route

namespace Trie

/-- Replace the node at `path`; no change when there is none. -/
def set (t : Trie) : List Seg → Trie → Trie
  | [], n => n
  | s :: ss, n =>
    match childAt s t.children with
    | some c => node t.pool (setChild s (c.set ss n) t.children)
    | none => t

/-- Modelled from the spec: when `Snip` removes a non-root node, namely when it
has no pool with endpoints and no children. -/
def Snippable (t : Trie) : Bool :=
  t.pool.all (·.IsEmpty) && t.children.isEmpty

/-- Delete the node at the end of `path` from its parent, then re-examine
each ancestor as `r.Parent.Snip()` does; `none` when the cascade removes this
node as well. -/
def removeBelow (t : Trie) : List Seg → Option Trie
  | [] => none
  | s :: ss =>
    match childAt s t.children with
    | none => some t
    | some c =>
      match c.removeBelow ss with
      | some c' => some (node t.pool (setChild s c' t.children))
      | none =>
        if (node t.pool (eraseChild s t.children)).Snippable then none
        else some (node t.pool (eraseChild s t.children))

/-- The deletion with its cascade, from the root, which is never removed. -/
def removeAt (t : Trie) : List Seg → Trie
  | [] => t
  | s :: ss =>
    match childAt s t.children with
    | none => t
    | some c =>
      match c.removeBelow ss with
      | some c' => node t.pool (setChild s c' t.children)
      | none => node t.pool (eraseChild s t.children)

/-- Modelled from the spec: `Trie.Snip`, absent from the sources, on the node at
`path`. -/
def Snip (t : Trie) (path : List Seg) : Trie :=
  if (t.get path).any Snippable then t.removeAt path else t

/-! ## The children map, continued -/

theorem setChild_of_childAt {s : Seg} {c : Trie} {cs : List (Seg × Trie)}
    (h : childAt s cs = some c) : setChild s c cs = cs := by
  induction cs with
  | nil => simp [childAt] at h
  | cons kd rest ih =>
    obtain ⟨k, d⟩ := kd
    by_cases hk : k = s
    · simp only [childAt, hk, if_true, Option.some.injEq] at h
      simp [setChild, hk, h]
    · simp only [childAt, hk, if_false] at h
      simp [setChild, hk, ih h]

theorem setChild_of_none {s : Seg} {c : Trie} {cs : List (Seg × Trie)}
    (h : childAt s cs = none) : setChild s c cs = cs := by
  induction cs with
  | nil => rfl
  | cons kd rest ih =>
    obtain ⟨k, d⟩ := kd
    by_cases hk : k = s
    · simp [childAt, hk] at h
    · simp only [childAt, hk, if_false] at h
      simp [setChild, hk, ih h]

theorem childAt_eq_none_iff (s : Seg) (cs : List (Seg × Trie)) :
    childAt s cs = none ↔ s ∉ cs.map Prod.fst := by
  induction cs with
  | nil => simp [childAt]
  | cons kd rest ih =>
    obtain ⟨k, d⟩ := kd
    by_cases hk : k = s
    · simp [childAt, hk]
    · simp [childAt, hk, ih, Ne.symm hk]

theorem setChild_setChild (s : Seg) (a b : Trie) (cs : List (Seg × Trie)) :
    setChild s b (setChild s a cs) = setChild s b cs := by
  induction cs with
  | nil => rfl
  | cons kd rest ih => by_cases hk : kd.1 = s <;> simp [setChild, hk, ih]

theorem eraseChild_setChild (s : Seg) (a : Trie) (cs : List (Seg × Trie)) :
    eraseChild s (setChild s a cs) = eraseChild s cs := by
  induction cs with
  | nil => rfl
  | cons kd rest ih =>
    by_cases hk : kd.1 = s <;> simp_all [setChild, eraseChild, List.filter_cons]

/-! ## Replacing a node -/

theorem get_set_self {t : Trie} {path : List Seg} (h : (t.get path).isSome) (n : Trie) :
    (t.set path n).get path = some n := by
  induction path generalizing t with
  | nil => rfl
  | cons s ss ih =>
    obtain ⟨p, cs⟩ := t
    cases hc : childAt s cs with
    | none => simp [get_cons, hc] at h
    | some c =>
      simp only [get_cons, hc, Option.some_bind] at h
      simp [set, hc, get_cons, childAt_setChild, ih h]

theorem set_set (t : Trie) (path : List Seg) (a b : Trie) :
    (t.set path a).set path b = t.set path b := by
  induction path generalizing t with
  | nil => rfl
  | cons s ss ih =>
    obtain ⟨p, cs⟩ := t
    cases hc : childAt s cs with
    | none => simp [set, hc]
    | some c => simp [set, hc, childAt_setChild, ih, setChild_setChild]

theorem set_get_self {t : Trie} {path : List Seg} {n : Trie} (h : t.get path = some n) :
    t.set path n = t := by
  induction path generalizing t with
  | nil => simpa using h.symm
  | cons s ss ih =>
    obtain ⟨p, cs⟩ := t
    cases hc : childAt s cs with
    | none => simp [set, hc]
    | some c =>
      simp only [get_cons, hc, Option.some_bind] at h
      simp [set, hc, ih h, setChild_of_childAt hc]

/-- A child of a replaced node is read from the replacement. -/
theorem get_set_child {t : Trie} {path : List Seg} (h : (t.get path).isSome) (n : Trie) (k : Seg) :
    (t.set path n).get (path ++ [k]) = childAt k n.children := by
  induction path generalizing t with
  | nil =>
    obtain ⟨p, cs⟩ := n
    simp only [set, List.nil_append, get_cons, children_node]
    cases childAt k cs <;> rfl
  | cons s ss ih =>
    obtain ⟨p, cs⟩ := t
    cases hc : childAt s cs with
    | none => simp [get_cons, hc] at h
    | some c =>
      simp only [get_cons, hc, Option.some_bind] at h
      simp [set, hc, get_cons, childAt_setChild, ih h]

/-- Replacing a child of a replaced node replaces it in the replacement. -/
theorem set_set_child {t : Trie} {path : List Seg} (h : (t.get path).isSome) (n : Trie) (k : Seg)
    (c : Trie) :
    (t.set path n).set (path ++ [k]) c = t.set path (node n.pool (setChild k c n.children)) := by
  induction path generalizing t with
  | nil =>
    obtain ⟨p, cs⟩ := n
    cases hk : childAt k cs with
    | none => simp [set, hk, setChild_of_none hk]
    | some d => simp [set, hk]
  | cons s ss ih =>
    obtain ⟨p, cs⟩ := t
    cases hc : childAt s cs with
    | none => simp [get_cons, hc] at h
    | some d =>
      simp only [get_cons, hc, Option.some_bind] at h
      simp [set, hc, childAt_setChild, setChild_setChild, ih h]

/-! ## Removing a node -/

theorem removeBelow_set {t : Trie} {path : List Seg} (h : (t.get path).isSome) (n : Trie) :
    (t.set path n).removeBelow path = t.removeBelow path := by
  induction path generalizing t with
  | nil => rfl
  | cons s ss ih =>
    obtain ⟨p, cs⟩ := t
    cases hc : childAt s cs with
    | none => simp [get_cons, hc] at h
    | some c =>
      simp only [get_cons, hc, Option.some_bind] at h
      simp [set, hc, removeBelow, childAt_setChild, ih h, setChild_setChild, eraseChild_setChild]

theorem removeAt_set {t : Trie} {s : Seg} {ss : List Seg} (h : (t.get (s :: ss)).isSome)
    (n : Trie) : (t.set (s :: ss) n).removeAt (s :: ss) = t.removeAt (s :: ss) := by
  obtain ⟨p, cs⟩ := t
  cases hc : childAt s cs with
  | none => simp [get_cons, hc] at h
  | some c =>
    simp only [get_cons, hc, Option.some_bind] at h
    simp [set, hc, removeAt, childAt_setChild, removeBelow_set h, setChild_setChild,
      eraseChild_setChild]

/-- Removing a child of a replaced node erases it from the replacement, and
the cascade goes on from there. -/
theorem removeBelow_set_child {t : Trie} {path : List Seg} (h : (t.get path).isSome) (n : Trie)
    {k : Seg} (hk : (childAt k n.children).isSome) :
    (t.set path n).removeBelow (path ++ [k]) =
      if (node n.pool (eraseChild k n.children)).Snippable then t.removeBelow path
      else some (t.set path (node n.pool (eraseChild k n.children))) := by
  induction path generalizing t with
  | nil =>
    obtain ⟨c, hc⟩ := Option.isSome_iff_exists.mp hk
    simp [set, removeBelow, hc]
  | cons s ss ih =>
    obtain ⟨p, cs⟩ := t
    cases hc : childAt s cs with
    | none => simp [get_cons, hc] at h
    | some c =>
      simp only [get_cons, hc, Option.some_bind] at h
      have hset : ∀ m, (node p cs).set (s :: ss) m = node p (setChild s (c.set ss m) cs) := by
        simp [set, hc]
      rw [hset, List.cons_append, removeBelow]
      simp only [children_node, pool_node, childAt_setChild, hc, if_true, Option.map_some', ih h]
      by_cases hsn : (node n.pool (eraseChild k n.children)).Snippable
      · cases hb : c.removeBelow ss <;>
          simp [hsn, hb, removeBelow, hc, setChild_setChild, eraseChild_setChild]
      · simp [hsn, hset, setChild_setChild]

theorem removeAt_set_child {t : Trie} {path : List Seg} (h : (t.get path).isSome) (n : Trie)
    {k : Seg} (hk : (childAt k n.children).isSome) :
    (t.set path n).removeAt (path ++ [k]) =
      if path ≠ [] ∧ (node n.pool (eraseChild k n.children)).Snippable then t.removeAt path
      else t.set path (node n.pool (eraseChild k n.children)) := by
  cases path with
  | nil =>
    obtain ⟨c, hc⟩ := Option.isSome_iff_exists.mp hk
    simp [set, removeAt, removeBelow, hc]
  | cons s ss =>
    obtain ⟨p, cs⟩ := t
    cases hc : childAt s cs with
    | none => simp [get_cons, hc] at h
    | some c =>
      simp only [get_cons, hc, Option.some_bind] at h
      have hset : ∀ m, (node p cs).set (s :: ss) m = node p (setChild s (c.set ss m) cs) := by
        simp [set, hc]
      rw [hset, List.cons_append, removeAt]
      simp only [children_node, pool_node, childAt_setChild, hc, if_true, Option.map_some',
        removeBelow_set_child h n hk]
      by_cases hsn : (node n.pool (eraseChild k n.children)).Snippable
      · cases hb : c.removeBelow ss <;>
          simp [hsn, hb, removeAt, hc, setChild_setChild, eraseChild_setChild]
      · simp [hsn, hset, setChild_setChild]

theorem get_removeBelow {t : Trie} {path : List Seg} {t' : Trie} (h : t.removeBelow path = some t')
    (hp : path ≠ []) : t'.get path = none := by
  induction path generalizing t t' with
  | nil => exact absurd rfl hp
  | cons s ss ih =>
    obtain ⟨p, cs⟩ := t
    cases hc : childAt s cs with
    | none =>
      simp only [removeBelow, children_node, hc, Option.some.injEq] at h
      subst h
      simp [get_cons, hc]
    | some c =>
      cases hb : c.removeBelow ss with
      | some c' =>
        simp only [removeBelow, children_node, pool_node, hc, hb, Option.some.injEq] at h
        subst h
        cases ss with
        | nil => simp [removeBelow] at hb
        | cons _ _ => simp [get_cons, childAt_setChild, ih hb (List.cons_ne_nil _ _)]
      | none =>
        simp only [removeBelow, children_node, pool_node, hc, hb] at h
        split at h
        · cases h
        · cases h; simp [get_cons, childAt_eraseChild]

/-- A removed node is gone. -/
theorem get_removeAt (t : Trie) {path : List Seg} (hp : path ≠ []) :
    (t.removeAt path).get path = none := by
  cases path with
  | nil => exact absurd rfl hp
  | cons s ss =>
    obtain ⟨p, cs⟩ := t
    cases hc : childAt s cs with
    | none => simp [removeAt, get_cons, hc]
    | some c =>
      cases hb : c.removeBelow ss with
      | some c' =>
        cases ss with
        | nil => simp [removeBelow] at hb
        | cons _ _ =>
          simp [removeAt, hc, hb, get_cons, childAt_setChild,
            get_removeBelow hb (List.cons_ne_nil _ _)]
      | none => simp [removeAt, hc, hb, get_cons, childAt_eraseChild]

/-! ## Well-formedness -/

mutual
/-- Every `ChildNodes` map of the trie has distinct keys, as a Go map does. -/
def WF : Trie → Prop
  | node _ cs => (cs.map Prod.fst).Nodup ∧ WFChildren cs

/-- Every child in the list is well formed. -/
def WFChildren : List (Seg × Trie) → Prop
  | [] => True
  | (_, c) :: rest => c.WF ∧ WFChildren rest
end

theorem WFChildren_iff (cs : List (Seg × Trie)) : WFChildren cs ↔ ∀ kc ∈ cs, kc.2.WF := by
  induction cs with
  | nil => simp [WFChildren]
  | cons kc rest ih => obtain ⟨k, c⟩ := kc; simp [WFChildren, ih]

theorem WF_node (p : Option EndpointPool) (cs : List (Seg × Trie)) :
    (node p cs).WF ↔ (cs.map Prod.fst).Nodup ∧ ∀ kc ∈ cs, kc.2.WF := by
  rw [WF, WFChildren_iff]

theorem WF_empty : empty.WF := by simp [empty, WF_node]

theorem WF.child {p : Option EndpointPool} {cs : List (Seg × Trie)} (h : (node p cs).WF) {s : Seg}
    {c : Trie} (hc : childAt s cs = some c) : c.WF :=
  ((WF_node p cs).mp h).2 _ (mem_of_childAt hc)

theorem WF.get {t : Trie} (h : t.WF) {path : List Seg} {n : Trie} (hn : t.get path = some n) :
    n.WF := by
  induction path generalizing t with
  | nil => simp_all
  | cons s ss ih =>
    obtain ⟨p, cs⟩ := t
    cases hc : childAt s cs with
    | none => simp [get_cons, hc] at hn
    | some c => exact ih (h.child hc) (by simpa [get_cons, hc] using hn)

theorem WF.setChild {p : Option EndpointPool} {cs : List (Seg × Trie)} (h : (node p cs).WF)
    (q : Option EndpointPool) (s : Seg) {c : Trie} (hc : c.WF) : (node q (setChild s c cs)).WF := by
  rw [WF_node] at h ⊢
  refine ⟨keys_setChild s c cs ▸ h.1, fun kc hkc => ?_⟩
  rcases mem_setChild hkc with rfl | hkc
  · exact hc
  · exact h.2 kc hkc

theorem WF.eraseChild {p : Option EndpointPool} {cs : List (Seg × Trie)} (h : (node p cs).WF)
    (q : Option EndpointPool) (s : Seg) : (node q (eraseChild s cs)).WF := by
  rw [WF_node] at h ⊢
  exact ⟨h.1.sublist ((List.filter_sublist _).map _),
    fun kc hkc => h.2 kc (List.mem_of_mem_filter hkc)⟩

theorem WF.set {t : Trie} (h : t.WF) (path : List Seg) {n : Trie} (hn : n.WF) :
    (t.set path n).WF := by
  induction path generalizing t with
  | nil => exact hn
  | cons s ss ih =>
    obtain ⟨p, cs⟩ := t
    cases hc : childAt s cs with
    | none => simpa [Trie.set, hc] using h
    | some c => simpa [Trie.set, hc] using h.setChild p s (ih (h.child hc))

theorem WF.removeBelow {t : Trie} (h : t.WF) {path : List Seg} {t' : Trie}
    (ht : t.removeBelow path = some t') : t'.WF := by
  induction path generalizing t t' with
  | nil => simp [Trie.removeBelow] at ht
  | cons s ss ih =>
    obtain ⟨p, cs⟩ := t
    cases hc : childAt s cs with
    | none =>
      simp only [Trie.removeBelow, children_node, hc, Option.some.injEq] at ht
      exact ht ▸ h
    | some c =>
      cases hb : c.removeBelow ss with
      | some c' =>
        simp only [Trie.removeBelow, children_node, pool_node, hc, hb, Option.some.injEq] at ht
        exact ht ▸ h.setChild p s (ih (h.child hc) hb)
      | none =>
        simp only [Trie.removeBelow, children_node, pool_node, hc, hb] at ht
        split at ht
        · cases ht
        · cases ht; exact h.eraseChild p s

theorem WF.removeAt {t : Trie} (h : t.WF) (path : List Seg) : (t.removeAt path).WF := by
  cases path with
  | nil => exact h
  | cons s ss =>
    obtain ⟨p, cs⟩ := t
    cases hc : childAt s cs with
    | none => simpa [Trie.removeAt, hc] using h
    | some c =>
      cases hb : c.removeBelow ss with
      | some c' => simpa [Trie.removeAt, hc, hb] using h.setChild p s ((h.child hc).removeBelow hb)
      | none => simpa [Trie.removeAt, hc, hb] using h.eraseChild p s

theorem WF.Snip {t : Trie} (h : t.WF) (path : List Seg) : (t.Snip path).WF := by
  unfold Trie.Snip
  split
  · exact h.removeAt path
  · exact h

theorem WF.insertPath {t : Trie} (h : t.WF) (path : List Seg) (v : EndpointPool) :
    (t.insertPath path v).WF := by
  induction path generalizing t with
  | nil => obtain ⟨p, cs⟩ := t; exact ((WF_node _ _).mpr ((WF_node p cs).mp h))
  | cons s ss ih =>
    obtain ⟨p, cs⟩ := t
    cases hc : childAt s cs with
    | some c => simpa [Trie.insertPath, hc] using h.setChild p s (ih (h.child hc))
    | none =>
      simp only [Trie.insertPath, hc]
      rw [WF_node] at h ⊢
      refine ⟨?_, fun kc hkc => ?_⟩
      · have hs := (childAt_eq_none_iff s cs).mp hc
        simpa using h.1.append (List.nodup_singleton s) (by simpa using hs)
      · simp only [List.mem_append, List.mem_singleton] at hkc
        rcases hkc with hkc | rfl
        · exact h.2 kc hkc
        · exact ih WF_empty

theorem WF.deletePath {t : Trie} (h : t.WF) (path : List Seg) : (t.deletePath path).WF := by
  induction path generalizing t with
  | nil => obtain ⟨p, cs⟩ := t; exact ((WF_node _ _).mpr ((WF_node p cs).mp h))
  | cons s ss ih =>
    obtain ⟨p, cs⟩ := t
    cases hc : childAt s cs with
    | none => simpa [Trie.deletePath, hc] using h
    | some c =>
      simp only [Trie.deletePath, hc]
      split
      · exact h.eraseChild p s
      · exact h.setChild p s (ih (h.child hc))

end Trie

end Gorouter.Container
