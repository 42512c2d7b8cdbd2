import Gorouter.Container.Walk

/-!
# Container — What the structural walk keeps

`Container.Walk` reduced Go's `EachNodeWithPool` with a snipping callback to
the structural recursion `walkRoot`. This module says what that recursion
does to the trie as a map from paths to pools: at every path the pool is the
callback's update of the old one, or it is gone, and it is only ever gone
when the updated pool was empty (`findPool_walkRoot`). A node is removed only
when its own snip or the cascade applies, and both require the updated pool
to be empty and every child removed (`walkNode_none_cases`); everything else
follows from that one inversion lemma by induction over the tree.

`poolPaths`, the order in which the walk calls the callback, lists every path
with a pool exactly once (`mem_poolPaths`, `nodup_poolPaths`). With an
idempotent update the walk is idempotent too (`walkRoot_walkRoot`).
-/

namespace Gorouter.Container

open Gorouter.Route

namespace Trie

/-- Induction over a trie with the hypothesis for every child: the recursion
every walk over the trie follows. -/
theorem induction_children {motive : Trie → Prop}
    (node : ∀ p cs, (∀ kc ∈ cs, motive kc.2) → motive (node p cs)) (t : Trie) : motive t :=
  @Trie.rec motive (fun cs => ∀ kc ∈ cs, motive kc.2) (fun kc => motive kc.2)
    (fun p cs ih => node p cs ih) (fun _ h => absurd h (List.not_mem_nil _))
    (fun _ _ h1 h2 kc hkc => (List.mem_cons.mp hkc).elim (fun h => h ▸ h1) (h2 kc))
    (fun _ _ h => h) t

theorem childAt_of_mem {cs : List (Seg × Trie)} (hnd : (cs.map Prod.fst).Nodup) {k : Seg}
    {c : Trie} (h : (k, c) ∈ cs) : childAt k cs = some c := by
  induction cs with
  | nil => simp at h
  | cons kd rest ih =>
    obtain ⟨k', d⟩ := kd
    simp only [List.map_cons, List.nodup_cons] at hnd
    rcases List.mem_cons.mp h with h | h
    · cases h; simp [childAt]
    · have hk : k' ≠ k := fun hk => hnd.1 (hk ▸ List.mem_map_of_mem _ h)
      simp [childAt, hk, ih hnd.2 h]

theorem get_append (t : Trie) (P R : List Seg) : t.get (P ++ R) = (t.get P).bind (·.get R) := by
  induction P generalizing t with
  | nil => rfl
  | cons s ss ih =>
    obtain ⟨p, cs⟩ := t
    cases hc : childAt s cs <;> simp [get_cons, hc, ih]

/-- A node's ancestors are nodes: the path to a node passes through them. -/
theorem get_isSome_of_prefix {t : Trie} {P Q : List Seg} (hPQ : P <+: Q)
    (h : (t.get Q).isSome) : (t.get P).isSome := by
  obtain ⟨R, rfl⟩ := hPQ
  rw [get_append] at h
  cases hP : t.get P <;> simp_all

section Structural

variable (f : EndpointPool → EndpointPool) (snipIf : EndpointPool → Bool)

/-! ## Removal and replacement -/

/-- A node the walk keeps becomes what the walk from it as a root returns. -/
theorem walkNode_eq_some {t t' : Trie} (h : walkNode f snipIf t = some t') :
    t' = walkRoot f snipIf t := by
  obtain ⟨p, cs⟩ := t
  simp only [walkNode] at h
  split_ifs at h
  cases h
  rfl

theorem mem_walkChildren {cs : List (Seg × Trie)} {kc' : Seg × Trie}
    (h : kc' ∈ (walkChildren f snipIf cs).1) :
    ∃ c, (kc'.1, c) ∈ cs ∧ walkNode f snipIf c = some kc'.2 := by
  induction cs with
  | nil => simp [walkChildren] at h
  | cons kc rest ih =>
    obtain ⟨k, c⟩ := kc
    cases hc : walkNode f snipIf c with
    | none =>
      simp only [walkChildren, hc] at h
      obtain ⟨d, hd, hw⟩ := ih h
      exact ⟨d, List.mem_cons_of_mem _ hd, hw⟩
    | some c' =>
      simp only [walkChildren, hc, List.mem_cons] at h
      rcases h with rfl | h
      · exact ⟨c, List.mem_cons_self _ _, hc⟩
      · obtain ⟨d, hd, hw⟩ := ih h
        exact ⟨d, List.mem_cons_of_mem _ hd, hw⟩

/-- A child the walk keeps stays, under its key. -/
theorem mem_walkChildren_of_some {cs : List (Seg × Trie)} {k : Seg} {c c' : Trie}
    (hkc : (k, c) ∈ cs) (hc : walkNode f snipIf c = some c') :
    (k, c') ∈ (walkChildren f snipIf cs).1 := by
  induction cs with
  | nil => simp at hkc
  | cons kd rest ih =>
    obtain ⟨k', d⟩ := kd
    rcases List.mem_cons.mp hkc with h | h
    · cases h; simp [walkChildren, hc]
    · cases hd : walkNode f snipIf d <;> simp [walkChildren, hd, ih h]

theorem keys_walkChildren_sublist (cs : List (Seg × Trie)) :
    ((walkChildren f snipIf cs).1.map Prod.fst).Sublist (cs.map Prod.fst) := by
  induction cs with
  | nil => exact List.Sublist.slnil
  | cons kc rest ih =>
    obtain ⟨k, c⟩ := kc
    cases hc : walkNode f snipIf c with
    | none => simpa [walkChildren, hc] using ih.cons k
    | some c' => simpa [walkChildren, hc] using ih.cons₂ k

/-- On distinct keys, a child of the walked node is the walked child. -/
theorem childAt_walkChildren {cs : List (Seg × Trie)} (hnd : (cs.map Prod.fst).Nodup)
    (k : Seg) : childAt k (walkChildren f snipIf cs).1 = (childAt k cs).bind (walkNode f snipIf) := by
  induction cs with
  | nil => rfl
  | cons kc rest ih =>
    obtain ⟨k', c⟩ := kc
    simp only [List.map_cons, List.nodup_cons] at hnd
    cases hc : walkNode f snipIf c with
    | some c' => by_cases hk : k' = k <;> simp [walkChildren, hc, childAt, hk, ih hnd.2]
    | none =>
      by_cases hk : k' = k
      · subst hk
        have hrest : childAt k' rest = none := (childAt_eq_none_iff _ _).mpr hnd.1
        simp [walkChildren, hc, childAt, ih hnd.2, hrest]
      · simp [walkChildren, hc, childAt, hk, ih hnd.2]

/-- What the walk can do to a node: it removes it only when the updated pool
is empty and every child has been removed, whether by the node's own snip or
by the cascade. -/
theorem walkNode_none_cases {t : Trie} (h : walkNode f snipIf t = none) :
    (t.pool.map f).all (·.IsEmpty) ∧ ∀ kc ∈ t.children, walkNode f snipIf kc.2 = none := by
  obtain ⟨p, cs⟩ := t
  simp only [walkNode] at h
  split_ifs at h with hown hcas
  · simp only [Snippable_node, Bool.and_eq_true, List.isEmpty_iff] at hown
    exact ⟨hown.2.1, by simp [hown.2.2]⟩
  · simp only [Snippable_node, Bool.and_eq_true, List.isEmpty_iff] at hcas
    refine ⟨hcas.2.1, fun kc hkc => ?_⟩
    cases hw : walkNode f snipIf kc.2 with
    | none => rfl
    | some c' =>
      have := mem_walkChildren_of_some f snipIf hkc hw
      simp [hcas.2.2] at this

/-- Every pool in a removed subtree was empty once updated. -/
theorem IsEmpty_of_walkNode_none {t : Trie} (h : walkNode f snipIf t = none) :
    ∀ Q q, t.findPool Q = some q → (f q).IsEmpty = true := by
  induction t using induction_children with
  | node p cs ih =>
    obtain ⟨hp, hcs⟩ := walkNode_none_cases f snipIf h
    rintro (_ | ⟨k, Q⟩) q hq
    · simp only [findPool_nil, pool_node] at hq
      simpa [hq] using hp
    · rw [findPool_cons] at hq
      cases hc : childAt k cs with
      | none => simp [hc] at hq
      | some c =>
        rw [hc, Option.some_bind] at hq
        have hmem := mem_of_childAt hc
        exact ih _ hmem (hcs _ hmem) Q q hq

/-- The walk as a map from paths to pools: at each path the pool is the
updated one, or it is gone and the updated pool was empty. -/
theorem findPool_walkRoot {t : Trie} (ht : t.WF) (Q : List Seg) :
    (walkRoot f snipIf t).findPool Q = (t.findPool Q).map f ∨
      ((walkRoot f snipIf t).findPool Q = none ∧
        ∀ q, t.findPool Q = some q → (f q).IsEmpty = true) := by
  induction t using induction_children generalizing Q with
  | node p cs ih =>
    have hnd := ((WF_node p cs).mp ht).1
    rcases Q with _ | ⟨k, Q⟩
    · simp [walkRoot]
    · simp only [walkRoot, findPool_cons, childAt_walkChildren f snipIf hnd]
      cases hc : childAt k cs with
      | none => simp
      | some c =>
        have hmem := mem_of_childAt hc
        simp only [Option.some_bind]
        cases hw : walkNode f snipIf c with
        | none => exact .inr ⟨rfl, IsEmpty_of_walkNode_none f snipIf hw Q⟩
        | some c' =>
          rw [Option.some_bind, walkNode_eq_some f snipIf hw]
          exact ih _ hmem (((WF_node p cs).mp ht).2 _ hmem) Q

/-- A pool that is not empty once updated stays, updated, at its path. -/
theorem findPool_walkRoot_of_not_IsEmpty {t : Trie} (ht : t.WF) {Q : List Seg}
    {q : EndpointPool} (hq : t.findPool Q = some q) (hne : (f q).IsEmpty = false) :
    (walkRoot f snipIf t).findPool Q = some (f q) := by
  rcases findPool_walkRoot f snipIf ht Q with h | ⟨-, h⟩
  · simp [h, hq]
  · simp [h q hq] at hne

theorem WF.walkRoot {t : Trie} (ht : t.WF) : (walkRoot f snipIf t).WF := by
  induction t using induction_children with
  | node p cs ih =>
    rw [WF_node] at ht
    rw [Trie.walkRoot, WF_node]
    refine ⟨ht.1.sublist (keys_walkChildren_sublist f snipIf cs), fun kc' hkc' => ?_⟩
    obtain ⟨c, hc, hw⟩ := mem_walkChildren f snipIf hkc'
    rw [walkNode_eq_some f snipIf hw]
    exact ih _ hc (ht.2 _ hc)

/-- A removed child is behind every `true` of the removal flag. -/
theorem exists_walkNode_none {cs : List (Seg × Trie)} (h : (walkChildren f snipIf cs).2 = true) :
    ∃ kc ∈ cs, walkNode f snipIf kc.2 = none := by
  induction cs with
  | nil => simp [walkChildren] at h
  | cons kc rest ih =>
    obtain ⟨k, c⟩ := kc
    cases hc : walkNode f snipIf c with
    | none => exact ⟨(k, c), List.mem_cons_self _ _, hc⟩
    | some c' =>
      simp only [walkChildren, hc] at h
      obtain ⟨kd, hkd, hd⟩ := ih h
      exact ⟨kd, List.mem_cons_of_mem _ hkd, hd⟩

/-- When no updated pool asks for a snip, the walk removes no node. -/
theorem walkNode_isSome_of_never_snip (hs : ∀ q, snipIf (f q) = false) (t : Trie) :
    (walkNode f snipIf t).isSome := by
  induction t using induction_children with
  | node p cs ih =>
    rw [Option.isSome_iff_ne_none]
    intro hw
    simp only [walkNode] at hw
    split_ifs at hw with hown hcas
    · cases p <;> simp_all
    · obtain ⟨kc, hkc, hnone⟩ := exists_walkNode_none f snipIf (Bool.and_eq_true _ _ ▸ hcas).1
      simpa [hnone] using ih kc hkc

/-- When no updated pool asks for a snip, the walk only updates pools. -/
theorem findPool_walkRoot_of_never_snip (hs : ∀ q, snipIf (f q) = false) {t : Trie} (ht : t.WF)
    (Q : List Seg) : (walkRoot f snipIf t).findPool Q = (t.findPool Q).map f := by
  induction t using induction_children generalizing Q with
  | node p cs ih =>
    have hnd := ((WF_node p cs).mp ht).1
    rcases Q with _ | ⟨k, Q⟩
    · simp [walkRoot]
    · simp only [walkRoot, findPool_cons, childAt_walkChildren f snipIf hnd]
      cases hc : childAt k cs with
      | none => simp
      | some c =>
        have hmem := mem_of_childAt hc
        obtain ⟨c', hw⟩ := Option.isSome_iff_exists.mp (walkNode_isSome_of_never_snip f snipIf hs c)
        simp only [Option.some_bind, hw]
        rw [walkNode_eq_some f snipIf hw]
        exact ih _ hmem (((WF_node p cs).mp ht).2 _ hmem) Q

/-- The registry's walks leave a well-formed trie. -/
theorem WF.EachNodeWithPool {t : Trie} (ht : t.WF) :
    (t.EachNodeWithPool (poolCallback f snipIf)).1.WF := by
  rw [EachNodeWithPool_eq f snipIf ht]
  exact ht.walkRoot f snipIf

/-! ## A second walk

With an update that is idempotent, what the walk leaves is a fixed point of
the walk: its pools are already updated, a node kept past its own snip test
passes it again with the same pool, and a node the cascade kept after its
last child went has a pool that is not empty. -/

section SecondWalk

variable {f snipIf}

/-- The children the walk keeps are kept again, unchanged, by a second walk. -/
theorem walkChildren_walkChildren {cs : List (Seg × Trie)}
    (ih : ∀ kc ∈ cs, ∀ c', walkNode f snipIf kc.2 = some c' → walkNode f snipIf c' = some c') :
    walkChildren f snipIf (walkChildren f snipIf cs).1 = ((walkChildren f snipIf cs).1, false) := by
  induction cs with
  | nil => rfl
  | cons kc rest ihr =>
    obtain ⟨k, c⟩ := kc
    have hrest := ihr fun kc hkc => ih kc (List.mem_cons_of_mem _ hkc)
    cases hc : walkNode f snipIf c with
    | none => simpa [walkChildren, hc] using hrest
    | some c' => simp [walkChildren, hc, ih (k, c) (List.mem_cons_self _ _) c' hc, hrest]

variable (hf : ∀ q, f (f q) = f q)
include hf

/-- A node the walk keeps, it keeps again unchanged. -/
theorem walkNode_walkNode : ∀ {t t' : Trie}, walkNode f snipIf t = some t' →
    walkNode f snipIf t' = some t' := by
  intro t
  induction t using induction_children with
  | node p cs ih =>
    intro t' h
    have hcs := walkChildren_walkChildren fun kc hkc _ => ih kc hkc
    have hp : (p.map f).map f = p.map f := by cases p <;> simp [hf]
    have hany : ((p.map f).any fun q => snipIf (f q)) = p.any fun q => snipIf (f q) := by
      cases p <;> simp [hf]
    simp only [walkNode] at h
    split_ifs at h with hown hcas
    cases h
    -- the node's own snip test: with no child removed it is the first walk's test again
    have hsnip : ((p.any fun q => snipIf (f q)) &&
        (node (p.map f) (walkChildren f snipIf cs).1).Snippable) = false := by
      cases hw : (walkChildren f snipIf cs).2
      · simp only [Snippable_node, Bool.not_eq_true] at hown ⊢
        rwa [isEmpty_walkChildren f snipIf hw]
      · simp only [hw, Bool.true_and, Bool.not_eq_true] at hcas
        simp [hcas]
    simp [walkNode, hcs, hp, hany, hsnip]

/-- The walk from the root is idempotent. -/
theorem walkRoot_walkRoot (t : Trie) : walkRoot f snipIf (walkRoot f snipIf t) = walkRoot f snipIf t := by
  obtain ⟨p, cs⟩ := t
  have hp : (p.map f).map f = p.map f := by cases p <;> simp [hf]
  simp only [walkRoot, hp, walkChildren_walkChildren fun _ _ _ => walkNode_walkNode hf]

end SecondWalk

end Structural

/-! ## The callback's order -/

theorem mem_poolPathsChildren {pre P : List Seg} {cs : List (Seg × Trie)} :
    P ∈ poolPathsChildren pre cs ↔ ∃ kc ∈ cs, P ∈ poolPaths (pre ++ [kc.1]) kc.2 := by
  induction cs with
  | nil => simp [poolPathsChildren]
  | cons kc rest ih => obtain ⟨k, c⟩ := kc; simp [poolPathsChildren, ih]

theorem mem_poolPaths_node {pre P : List Seg} {p : Option EndpointPool}
    {cs : List (Seg × Trie)} :
    P ∈ poolPaths pre (node p cs) ↔
      (p.isSome ∧ P = pre) ∨ ∃ kc ∈ cs, P ∈ poolPaths (pre ++ [kc.1]) kc.2 := by
  cases p <;> simp [poolPaths, mem_poolPathsChildren]

theorem prefix_of_mem_poolPaths {t : Trie} : ∀ {pre P : List Seg}, P ∈ poolPaths pre t → pre <+: P := by
  induction t using induction_children with
  | node p cs ih =>
    intro pre P h
    rcases mem_poolPaths_node.mp h with ⟨-, rfl⟩ | ⟨kc, hkc, h⟩
    · exact List.prefix_refl _
    · exact (List.prefix_append _ _).trans (ih kc hkc h)

/-- The callback runs at exactly the paths that carry a pool. -/
theorem mem_poolPaths {t : Trie} (ht : t.WF) (pre P : List Seg) :
    P ∈ poolPaths pre t ↔ ∃ Q, P = pre ++ Q ∧ (t.findPool Q).isSome := by
  induction t using induction_children generalizing pre P with
  | node p cs ih =>
    have hwf := (WF_node p cs).mp ht
    rw [mem_poolPaths_node]
    constructor
    · rintro (⟨hp, rfl⟩ | ⟨⟨k, c⟩, hkc, h⟩)
      · exact ⟨[], by simp, by simpa using hp⟩
      · obtain ⟨Q, rfl, hQ⟩ := (ih _ hkc (hwf.2 _ hkc) _ _).mp h
        exact ⟨k :: Q, by simp, by simpa [findPool_cons, childAt_of_mem hwf.1 hkc] using hQ⟩
    · rintro ⟨(_ | ⟨k, Q⟩), rfl, hQ⟩
      · exact .inl ⟨by simpa using hQ, by simp⟩
      · rw [findPool_cons] at hQ
        cases hc : childAt k cs with
        | none => simp [hc] at hQ
        | some c =>
          have hmem := mem_of_childAt hc
          refine .inr ⟨(k, c), hmem, (ih _ hmem (hwf.2 _ hmem) _ _).mpr ⟨Q, by simp, ?_⟩⟩
          simpa [hc] using hQ

/-- Children under distinct keys contribute disjoint runs of paths. -/
theorem nodup_poolPathsChildren {pre : List Seg} {cs : List (Seg × Trie)}
    (hnd : (cs.map Prod.fst).Nodup) (h : ∀ kc ∈ cs, (poolPaths (pre ++ [kc.1]) kc.2).Nodup) :
    (poolPathsChildren pre cs).Nodup := by
  induction cs with
  | nil => exact List.nodup_nil
  | cons kc rest ih =>
    obtain ⟨k, c⟩ := kc
    simp only [List.map_cons, List.nodup_cons] at hnd
    refine List.Nodup.append (h _ (List.mem_cons_self _ _))
      (ih hnd.2 fun kc hkc => h kc (List.mem_cons_of_mem _ hkc)) fun P hP hP' => ?_
    obtain ⟨⟨k', c'⟩, hkc', hP'⟩ := mem_poolPathsChildren.mp hP'
    have h1 := prefix_of_mem_poolPaths hP
    have h2 := prefix_of_mem_poolPaths hP'
    have heq : pre ++ [k] = pre ++ [k'] :=
      (List.prefix_of_prefix_length_le h1 h2 (by simp)).eq_of_length (by simp)
    simp only [List.append_cancel_left_eq, List.cons.injEq, and_true] at heq
    exact hnd.1 (heq ▸ List.mem_map_of_mem Prod.fst hkc')

/-- The callback runs at most once per path. -/
theorem nodup_poolPaths {t : Trie} (ht : t.WF) (pre : List Seg) : (poolPaths pre t).Nodup := by
  induction t using induction_children generalizing pre with
  | node p cs ih =>
    have hwf := (WF_node p cs).mp ht
    have hcs := @nodup_poolPathsChildren pre cs hwf.1 fun kc hkc => ih kc hkc (hwf.2 kc hkc) _
    cases p with
    | none => simpa [poolPaths] using hcs
    | some q =>
      refine List.nodup_cons.mpr ⟨fun h => ?_, hcs⟩
      obtain ⟨kc, -, h⟩ := mem_poolPathsChildren.mp h
      have := (prefix_of_mem_poolPaths h).length_le
      simp only [List.length_append, List.length_singleton] at this
      omega

end Trie

end Gorouter.Container
