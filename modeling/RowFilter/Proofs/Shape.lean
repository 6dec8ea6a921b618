import RowFilter.Tree.Lemmas
/-!
# Shapes of trees

A tree is its shape and its leaves in document order. Replacing leaves keeps the shape;
pruning makes of it a shape that depends on which leaves are kept and on nothing else.

Results:
* `map_congr_leaves`: trees of one shape whose leaves are replaced by equal ones are equal.
* `exists_zip`: trees of one shape are one tree of pairs.
* `shape_of_traverse`: a traversal keeps the shape.
* `shape_of_prune`: trees of one shape that keep the same leaves are pruned to one shape.
-/
namespace RowFilter.Tree

variable {α β γ δ ε : Type}

/-- A tree with nothing in its leaves. -/
def shape (t : Tree α) : Tree Unit := t.map fun _ => ()

def shapes (ts : List (Tree α)) : List (Tree Unit) := mapOf (fun _ => ()) ts

mutual

@[simp] theorem shape_map (f : α → β) (t : Tree α) : (t.map f).shape = t.shape := by
  cases t with
  | leaf a => rfl
  | group c ts => exact congrArg (group c) (shapes_mapOf f ts)

@[simp] theorem shapes_mapOf (f : α → β) (ts : List (Tree α)) : shapes (mapOf f ts) = shapes ts := by
  cases ts with
  | nil => rfl
  | cons t ts => exact List.cons_eq_cons.mpr ⟨shape_map f t, shapes_mapOf f ts⟩

end

theorem length_leaves_of_shape (t : Tree α) (u : Tree β) (h : t.shape = u.shape) :
    t.leaves.length = u.leaves.length := by
  have hl := congrArg (fun s => s.leaves.length) h
  simpa [shape] using hl

mutual

/-- Trees of one shape whose leaves are replaced by equal ones are equal. -/
theorem map_congr_leaves {f : α → γ} {g : β → γ} (t : Tree α) (u : Tree β)
    (hs : t.shape = u.shape) (hl : t.leaves.map f = u.leaves.map g) : t.map f = u.map g := by
  cases t with
  | leaf a =>
    cases u with
    | leaf b => simpa [leaves, map] using hl
    | group c us => cases hs
  | group c ts =>
    cases u with
    | leaf b => cases hs
    | group c' us =>
      injection hs with hc hts
      rw [map, map, hc, mapOf_congr_leaves ts us hts hl]

theorem mapOf_congr_leaves {f : α → γ} {g : β → γ} (ts : List (Tree α)) (us : List (Tree β))
    (hs : shapes ts = shapes us) (hl : (leavesOf ts).map f = (leavesOf us).map g) :
    mapOf f ts = mapOf g us := by
  cases ts with
  | nil =>
    cases us with
    | nil => rfl
    | cons u us => cases hs
  | cons t ts =>
    cases us with
    | nil => cases hs
    | cons u us =>
      injection hs with ht hts
      rw [leavesOf, leavesOf, List.map_append, List.map_append] at hl
      have hlen : (t.leaves.map f).length = (u.leaves.map g).length := by
        rw [List.length_map, List.length_map, length_leaves_of_shape t u ht]
      obtain ⟨h1, h2⟩ := List.append_inj hl hlen
      rw [mapOf, mapOf, map_congr_leaves t u ht h1, mapOf_congr_leaves ts us hts h2]

end

mutual

/-- Trees of one shape are one tree of pairs. -/
theorem exists_zip (t : Tree α) (u : Tree β) (hs : t.shape = u.shape) :
    ∃ w : Tree (α × β), w.map Prod.fst = t ∧ w.map Prod.snd = u := by
  cases t with
  | leaf a =>
    cases u with
    | leaf b => exact ⟨leaf (a, b), rfl, rfl⟩
    | group c us => cases hs
  | group c ts =>
    cases u with
    | leaf b => cases hs
    | group c' us =>
      injection hs with hc hts
      subst hc
      obtain ⟨ws, rfl, rfl⟩ := exists_zipAll ts us hts
      exact ⟨group c ws, rfl, rfl⟩

theorem exists_zipAll (ts : List (Tree α)) (us : List (Tree β)) (hs : shapes ts = shapes us) :
    ∃ ws : List (Tree (α × β)), mapOf Prod.fst ws = ts ∧ mapOf Prod.snd ws = us := by
  cases ts with
  | nil =>
    cases us with
    | nil => exact ⟨[], rfl, rfl⟩
    | cons u us => cases hs
  | cons t ts =>
    cases us with
    | nil => cases hs
    | cons u us =>
      injection hs with ht hts
      obtain ⟨w, rfl, rfl⟩ := exists_zip t u ht
      obtain ⟨ws, rfl, rfl⟩ := exists_zipAll ts us hts
      exact ⟨w :: ws, rfl, rfl⟩

end

mutual

theorem shape_of_traverse {f : α → Except ε β} (t : Tree α) {u : Tree β}
    (h : traverse f t = .ok u) : u.shape = t.shape := by
  cases t with
  | leaf a =>
    cases hf : f a with
    | error e => simp [traverse, hf, Except.map] at h
    | ok b => rw [traverse, hf] at h; cases h; rfl
  | group c ts =>
    cases hf : traverseOf f ts with
    | error e => simp [traverse, hf, Except.map] at h
    | ok us =>
      rw [traverse, hf] at h
      cases h
      exact congrArg (group c) (shapes_of_traverseOf ts hf)

theorem shapes_of_traverseOf {f : α → Except ε β} (ts : List (Tree α)) {us : List (Tree β)}
    (h : traverseOf f ts = .ok us) : shapes us = shapes ts := by
  cases ts with
  | nil => cases h; rfl
  | cons t ts =>
    cases ht : traverse f t with
    | error e => simp [traverseOf, ht, bind, Except.bind] at h
    | ok u =>
      cases hts : traverseOf f ts with
      | error e => simp [traverseOf, ht, hts, bind, Except.bind] at h
      | ok vs =>
        simp only [traverseOf, ht, hts, bind, Except.bind, pure, Except.pure, Except.ok.injEq] at h
        cases h
        rw [shapes, shapes, mapOf, mapOf]
        exact List.cons_eq_cons.mpr ⟨shape_of_traverse t ht, shapes_of_traverseOf ts hts⟩

end

/-- Whether a leaf is kept. -/
def isKept : Except ε (Option β) → Bool
  | .ok (some _) => true
  | _ => false

/-- Keeps a leaf as a place without anything in it. -/
def place (kept : Bool) : Except ε (Option Unit) := .ok (if kept then some () else none)

mutual

/-- The shape of a pruned tree is that of the places that are kept. -/
theorem prune_place {f : α → Except ε (Option β)} (t : Tree α) {u : Option (Tree β)}
    (h : prune f t = .ok u) :
    prune (place : Bool → Except ε _) (t.map fun a => isKept (f a)) = .ok (u.map shape) := by
  cases t with
  | leaf a =>
    cases hf : f a with
    | error e => simp [prune, hf, Except.map] at h
    | ok b =>
      rw [prune, hf] at h
      cases h
      rw [map, prune, hf]
      cases b <;> rfl
  | group c ts =>
    cases hf : pruneOf f ts with
    | error e => simp [prune, hf, bind, Except.bind] at h
    | ok us =>
      have hus := pruneOf_place ts hf
      rw [map, prune, hus]
      rw [prune, hf] at h
      cases us with
      | nil => cases h; rfl
      | cons u us => cases h; rfl

theorem pruneOf_place {f : α → Except ε (Option β)} (ts : List (Tree α)) {us : List (Tree β)}
    (h : pruneOf f ts = .ok us) :
    pruneOf (place : Bool → Except ε _) (mapOf (fun a => isKept (f a)) ts) = .ok (shapes us) := by
  cases ts with
  | nil => cases h; rfl
  | cons t ts =>
    cases ht : prune f t with
    | error e => simp [pruneOf, ht, bind, Except.bind] at h
    | ok u =>
      cases hts : pruneOf f ts with
      | error e => simp [pruneOf, ht, hts, bind, Except.bind] at h
      | ok vs =>
        simp only [pruneOf, ht, hts, bind, Except.bind, pure, Except.pure, Except.ok.injEq] at h
        cases h
        rw [mapOf, pruneOf, prune_place t ht, pruneOf_place ts hts]
        cases u <;> rfl

end

/-- Trees of one shape that keep the same leaves are pruned to one shape. -/
theorem shape_of_prune {f : α → Except ε (Option γ)} {g : β → Except ε (Option δ)} {t : Tree α}
    {u : Tree β} {t' : Tree γ} {u' : Tree δ} (hs : t.shape = u.shape)
    (hk : (t.leaves.map fun a => isKept (f a)) = u.leaves.map fun b => isKept (g b))
    (ht : prune f t = .ok (some t')) (hu : prune g u = .ok (some u')) : t'.shape = u'.shape := by
  have h := prune_place t ht
  rw [map_congr_leaves t u hs hk, prune_place u hu] at h
  exact (Option.some.inj (Except.ok.inj h)).symm

end RowFilter.Tree
