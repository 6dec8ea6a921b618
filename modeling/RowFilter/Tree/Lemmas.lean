import RowFilter.Tree
/-!
# Leaves of trees

What the operations on trees do to the leaves, in document order.

* `leaves_map`, `depth_map`: replacing leaves keeps their order and the depth.
* `mapM_leaves_of_traverse`: a traversal visits the leaves in order.
* `mapM_leaves_of_prune`: pruning visits them in order and leaves out those that are not kept.
-/
namespace RowFilter.Tree

variable {α β ε : Type}

/-! ## Replacing leaves -/

mutual

@[simp] theorem leaves_map (f : α → β) (t : Tree α) : (map f t).leaves = t.leaves.map f := by
  cases t with
  | leaf a => rfl
  | group c ts => exact leavesOf_mapOf f ts

@[simp] theorem leavesOf_mapOf (f : α → β) (ts : List (Tree α)) :
    leavesOf (mapOf f ts) = (leavesOf ts).map f := by
  cases ts with
  | nil => rfl
  | cons t ts =>
    rw [mapOf, leavesOf, leavesOf, leaves_map f t, leavesOf_mapOf f ts, List.map_append]

end

mutual

@[simp] theorem depth_map (f : α → β) (t : Tree α) : (map f t).depth = t.depth := by
  cases t with
  | leaf a => rfl
  | group c ts => rw [map, depth, depth, depthOf_mapOf f ts]

@[simp] theorem depthOf_mapOf (f : α → β) (ts : List (Tree α)) :
    depthOf (mapOf f ts) = depthOf ts := by
  cases ts with
  | nil => rfl
  | cons t ts => rw [mapOf, depthOf, depthOf, depth_map f t, depthOf_mapOf f ts]

end

mutual

/-- Replacing leaves by themselves changes nothing. -/
theorem map_eq_self {f : α → α} {t : Tree α} (h : ∀ a ∈ t.leaves, f a = a) : map f t = t := by
  cases t with
  | leaf a => rw [map, h a (List.mem_singleton_self a)]
  | group c ts => rw [map, mapOf_eq_self h]

theorem mapOf_eq_self {f : α → α} {ts : List (Tree α)} (h : ∀ a ∈ leavesOf ts, f a = a) :
    mapOf f ts = ts := by
  cases ts with
  | nil => rfl
  | cons t ts =>
    rw [leavesOf, List.forall_mem_append] at h
    rw [mapOf, map_eq_self h.1, mapOf_eq_self h.2]

end

/-! ## Traversing -/

mutual

/-- The leaves of a traversed tree are those of the tree, each replaced in order. -/
theorem mapM_leaves_of_traverse {f : α → Except ε β} (t : Tree α) {u : Tree β}
    (h : traverse f t = .ok u) : t.leaves.mapM f = .ok u.leaves := by
  cases t with
  | leaf a =>
    cases hf : f a with
    | error e => simp [traverse, hf, Except.map] at h
    | ok b =>
      simp only [traverse, hf, Except.map, Except.ok.injEq] at h
      subst h
      simp only [leaves, List.mapM_cons, hf, List.mapM_nil]
      rfl
  | group c ts =>
    cases hf : traverseOf f ts with
    | error e => simp [traverse, hf, Except.map] at h
    | ok us =>
      simp only [traverse, hf, Except.map, Except.ok.injEq] at h
      subst h
      exact mapM_leavesOf_of_traverseOf ts hf

theorem mapM_leavesOf_of_traverseOf {f : α → Except ε β} (ts : List (Tree α))
    {us : List (Tree β)} (h : traverseOf f ts = .ok us) :
    (leavesOf ts).mapM f = .ok (leavesOf us) := by
  cases ts with
  | nil =>
    simp only [traverseOf, Except.ok.injEq] at h
    subst h
    rfl
  | cons t ts =>
    cases ht : traverse f t with
    | error e => simp [traverseOf, ht, bind, Except.bind] at h
    | ok u =>
      cases hts : traverseOf f ts with
      | error e => simp [traverseOf, ht, hts, bind, Except.bind] at h
      | ok vs =>
        simp only [traverseOf, ht, hts, bind, Except.bind, pure, Except.pure,
          Except.ok.injEq] at h
        subst h
        rw [leavesOf, leavesOf, List.mapM_append, mapM_leaves_of_traverse t ht,
          mapM_leavesOf_of_traverseOf ts hts]
        rfl

end

/-! ## Pruning -/

mutual

/-- The leaves of a pruned tree are those of the tree that are kept, in order. -/
theorem mapM_leaves_of_prune {f : α → Except ε (Option β)} (t : Tree α) {u : Option (Tree β)}
    (h : prune f t = .ok u) :
    ∃ bs, t.leaves.mapM f = .ok bs ∧ leavesOf u.toList = bs.filterMap id := by
  cases t with
  | leaf a =>
    cases hf : f a with
    | error e => simp [prune, hf, Except.map] at h
    | ok b =>
      simp only [prune, hf, Except.map, Except.ok.injEq] at h
      subst h
      refine ⟨[b], ?_, ?_⟩
      · simp only [leaves, List.mapM_cons, hf, List.mapM_nil]
        rfl
      · cases b <;> rfl
  | group c ts =>
    cases hf : pruneOf f ts with
    | error e => simp [prune, hf, bind, Except.bind] at h
    | ok us =>
      obtain ⟨bs, hbs, hus⟩ := mapM_leavesOf_of_pruneOf ts hf
      refine ⟨bs, hbs, ?_⟩
      rw [← hus]
      cases us with
      | nil =>
        simp only [prune, hf, bind, Except.bind, pure, Except.pure, Except.ok.injEq] at h
        subst h
        rfl
      | cons u us =>
        simp only [prune, hf, bind, Except.bind, pure, Except.pure, Except.ok.injEq] at h
        subst h
        rw [Option.toList, leavesOf, leavesOf, leaves, List.append_nil]

theorem mapM_leavesOf_of_pruneOf {f : α → Except ε (Option β)} (ts : List (Tree α))
    {us : List (Tree β)} (h : pruneOf f ts = .ok us) :
    ∃ bs, (leavesOf ts).mapM f = .ok bs ∧ leavesOf us = bs.filterMap id := by
  cases ts with
  | nil =>
    simp only [pruneOf, Except.ok.injEq] at h
    subst h
    exact ⟨[], rfl, rfl⟩
  | cons t ts =>
    cases ht : prune f t with
    | error e => simp [pruneOf, ht, bind, Except.bind] at h
    | ok u =>
      cases hts : pruneOf f ts with
      | error e => simp [pruneOf, ht, hts, bind, Except.bind] at h
      | ok vs =>
        simp only [pruneOf, ht, hts, bind, Except.bind, pure, Except.pure, Except.ok.injEq] at h
        obtain ⟨bs, hbs, hu⟩ := mapM_leaves_of_prune t ht
        obtain ⟨cs, hcs, hvs⟩ := mapM_leavesOf_of_pruneOf ts hts
        refine ⟨bs ++ cs, ?_, ?_⟩
        · rw [leavesOf, List.mapM_append, hbs, hcs]
          rfl
        · rw [List.filterMap_append, ← hu, ← hvs, ← h]
          cases u <;> simp [leavesOf]

end

end RowFilter.Tree
