import RowFilter.Filter.Prune
import RowFilter.Proofs.Requirement
import RowFilter.Proofs.Shape
/-!
# Prepared filters

A filter that was prepared has the actor in it and nothing left to drop. Preparing it once
more changes nothing, and the same goes for every part of it.

Results:
* `pruned_of_prune`: what pruning leaves has no empty group.
* `prune_of_fixed`: a tree without empty groups whose leaves are all kept as they are is left
  as it is.
* `Condition.prepare_prepare`: a prepared condition is prepared to itself.
* `Filter.prepare_children`: so is each child of a prepared group.
-/
namespace RowFilter

/-! ## Trees without empty groups -/

namespace Tree

variable {α β ε : Type}

mutual

/-- No group of the tree is empty. -/
def Pruned : Tree α → Prop
  | leaf _ => True
  | group _ ts => ts ≠ [] ∧ AllPruned ts

def AllPruned : List (Tree α) → Prop
  | [] => True
  | t :: ts => Pruned t ∧ AllPruned ts

end

theorem pruned_of_mem {ts : List (Tree α)} (h : AllPruned ts) {t : Tree α} (ht : t ∈ ts) :
    t.Pruned := by
  induction ts with
  | nil => cases ht
  | cons u us ih =>
    rcases List.mem_cons.mp ht with rfl | ht
    · exact h.1
    · exact ih h.2 ht

theorem leaves_subset_leavesOf {ts : List (Tree α)} {t : Tree α} (ht : t ∈ ts) :
    t.leaves ⊆ leavesOf ts := by
  induction ts with
  | nil => cases ht
  | cons u us ih =>
    rw [leavesOf]
    rcases List.mem_cons.mp ht with rfl | ht
    · exact List.subset_append_left _ _
    · exact List.subset_append_of_subset_right _ (ih ht)

mutual

theorem pruned_map (f : α → β) (t : Tree α) : (t.map f).Pruned ↔ t.Pruned := by
  cases t with
  | leaf a => exact Iff.rfl
  | group c ts =>
    rw [map, Pruned, Pruned, allPruned_mapOf f ts]
    cases ts <;> simp [mapOf]

theorem allPruned_mapOf (f : α → β) (ts : List (Tree α)) :
    AllPruned (mapOf f ts) ↔ AllPruned ts := by
  cases ts with
  | nil => exact Iff.rfl
  | cons t ts => rw [mapOf, AllPruned, AllPruned, pruned_map f t, allPruned_mapOf f ts]

end

/-- Whether a tree has empty groups is a matter of its shape. -/
theorem pruned_of_shape {t : Tree α} {u : Tree β} (hs : t.shape = u.shape) (h : t.Pruned) :
    u.Pruned := by
  have hu : u.shape.Pruned := by
    rw [← hs]
    exact (pruned_map _ t).mpr h
  exact (pruned_map _ u).mp hu

mutual

theorem pruned_of_prune {f : α → Except ε (Option β)} (t : Tree α) {u : Tree β}
    (h : prune f t = .ok (some u)) : u.Pruned := by
  cases t with
  | leaf a =>
    rw [prune] at h
    obtain ⟨b, -, hb⟩ := ok_of_map h
    cases b with
    | none => cases hb
    | some b => cases hb; exact trivial
  | group c ts =>
    rw [prune] at h
    obtain ⟨us, hus, h⟩ := ok_of_bind h
    cases us with
    | nil => cases h
    | cons v vs =>
      cases h
      exact ⟨List.cons_ne_nil v vs, allPruned_of_pruneOf ts hus⟩

theorem allPruned_of_pruneOf {f : α → Except ε (Option β)} (ts : List (Tree α))
    {us : List (Tree β)} (h : pruneOf f ts = .ok us) : AllPruned us := by
  cases ts with
  | nil => cases h; exact trivial
  | cons t ts =>
    rw [pruneOf] at h
    obtain ⟨u, hu, h⟩ := ok_of_bind h
    obtain ⟨vs, hvs, h⟩ := ok_of_bind h
    have hall := allPruned_of_pruneOf ts hvs
    cases u with
    | none => cases h; exact hall
    | some u => cases h; exact ⟨pruned_of_prune t hu, hall⟩

end

mutual

/-- A tree without empty groups whose leaves are all kept as they are is left as it is. -/
theorem prune_of_fixed {f : α → Except ε (Option α)} (t : Tree α) (hp : t.Pruned)
    (hf : ∀ a ∈ t.leaves, f a = .ok (some a)) : prune f t = .ok (some t) := by
  cases t with
  | leaf a =>
    rw [prune, hf a (List.mem_singleton.mpr rfl)]
    rfl
  | group c ts =>
    rw [prune, pruneOf_of_fixed ts hp.2 hf]
    cases ts with
    | nil => exact absurd rfl hp.1
    | cons u us => rfl

theorem pruneOf_of_fixed {f : α → Except ε (Option α)} (ts : List (Tree α)) (hp : AllPruned ts)
    (hf : ∀ a ∈ leavesOf ts, f a = .ok (some a)) : pruneOf f ts = .ok ts := by
  cases ts with
  | nil => rfl
  | cons t ts =>
    have ht := prune_of_fixed t hp.1 fun a ha => hf a (List.mem_append_left _ ha)
    have hts := pruneOf_of_fixed ts hp.2 fun a ha => hf a (List.mem_append_right _ ha)
    rw [pruneOf, ht, hts]
    rfl

end

end Tree

/-! ## The actor in a value -/

namespace Json

theorem find?_put {α : Type} (key : String) (v : α) (fields : List (String × α)) :
    find? key (put key v fields) = some v := by
  induction fields with
  | nil => exact if_pos rfl
  | cons field fields ih =>
    obtain ⟨k, w⟩ := field
    rw [put]
    split
    · rw [find?, if_pos ‹_›]
    · rw [find?, if_neg ‹_›, ih]

theorem put_put {α : Type} (key : String) (v w : α) (fields : List (String × α)) :
    put key w (put key v fields) = put key w fields := by
  induction fields with
  | nil => exact if_pos rfl
  | cons field fields ih =>
    obtain ⟨k, x⟩ := field
    rw [put, put]
    split
    · rw [put, if_pos ‹_›]
    · rw [put, if_neg ‹_›, ih]

variable (placeholder actor : String)

theorem substitute_obj_of_id {fields : List (String × Json)}
    (hid : find? "id" fields = some (.str placeholder)) :
    (Json.obj fields).substitute placeholder actor = .obj (put "id" (.str actor) fields) := by
  simp only [substitute, hid, if_true]

theorem substitute_obj_of_not {fields : List (String × Json)}
    (hid : find? "id" fields ≠ some (.str placeholder)) :
    (Json.obj fields).substitute placeholder actor = .obj fields := by
  rw [substitute]
  split
  · next s hs => exact if_neg fun h => hid (by rw [hs, h])
  · rfl

theorem substitute_obj (fields : List (String × Json)) :
    ((Json.obj fields).substitute placeholder actor).substitute placeholder actor
      = (Json.obj fields).substitute placeholder actor := by
  by_cases hid : find? "id" fields = some (.str placeholder)
  · rw [substitute_obj_of_id placeholder actor hid]
    simp only [substitute, find?_put, put_put, ite_self]
  · rw [substitute_obj_of_not placeholder actor hid, substitute_obj_of_not placeholder actor hid]

mutual

/-- Once the actor is named, there is nothing left to replace by another name. -/
theorem substitute_substitute (j : Json) :
    (j.substitute placeholder actor).substitute placeholder actor
      = j.substitute placeholder actor := by
  cases j with
  | arr items =>
    rw [substitute, substitute, substituteAll_substituteAll items]
  | str s =>
    rw [substitute]
    split
    · rw [substitute]
      split <;> rfl
    · rw [substitute, if_neg ‹_›]
  | obj fields => exact substitute_obj placeholder actor fields
  | null => rfl
  | bool b => rfl
  | int i => rfl
  | float x => rfl

theorem substituteAll_substituteAll (items : List Json) :
    substituteAll placeholder actor (substituteAll placeholder actor items)
      = substituteAll placeholder actor items := by
  cases items with
  | nil => rfl
  | cons j items =>
    rw [substituteAll, substituteAll, substitute_substitute j, substituteAll_substituteAll items]

end

end Json

/-! ## Conditions and filters -/

namespace Condition

variable {column : Column} {placeholder : String} {actor : Option String} {q q' : Condition}

theorem withActor_withActor (h : q.withActor column placeholder actor = .ok q') :
    q'.withActor column placeholder actor = .ok q' := by
  unfold withActor at h
  split at h
  · cases actor with
    | none => cases h
    | some actor =>
      cases h
      unfold withActor
      split
      · simp only [Json.substitute_substitute]
      · rfl
  · cases h
    exact if_neg ‹_›

/-- A prepared condition is prepared to itself. -/
theorem prepare_prepare {schema : Schema} (h : q.prepare schema placeholder actor = .ok (some q')) :
    q'.prepare schema placeholder actor = .ok (some q') := by
  have hid : schema q'.columnId = schema q.columnId := by rw [(prepare_ok h).1]
  rw [prepare] at h
  rw [prepare, hid]
  cases hs : schema q.columnId with
  | none => rfl
  | some column =>
    rw [hs] at h
    obtain ⟨w, hw, h⟩ := ok_of_bind h
    cases hv : w.isVacuous column with
    | true => rw [hv] at h; cases h
    | false =>
      rw [hv] at h
      cases h
      show (q'.withActor column placeholder actor >>= _) = _
      rw [withActor_withActor hw]
      show Except.ok (if q'.isVacuous column = true then none else some q') = _
      rw [hv]
      rfl

end Condition

namespace Filter

variable {schema : Schema} {placeholder : String} {actor : Option String} {f : Filter}

/-- Every part of what is left of a filter is prepared to itself. -/
theorem prepare_part {g g' : Filter} (h : f.prepare schema placeholder actor = .ok (some g))
    (hp : g'.Pruned) (hl : g'.leaves ⊆ g.leaves) :
    g'.prepare schema placeholder actor = .ok (some g') := by
  refine Tree.prune_of_fixed g' hp fun q hq => ?_
  obtain ⟨_, -, hprep⟩ := mem_leaves_of_prepare h (hl hq)
  exact Condition.prepare_prepare hprep

/-- Each child of a prepared group is prepared to itself. -/
theorem prepare_children {c : Conjunction} {gs : List Filter}
    (h : f.prepare schema placeholder actor = .ok (some (.group c gs))) :
    ∀ g ∈ gs, g.prepare schema placeholder actor = .ok (some g) := by
  intro g hg
  exact prepare_part h (Tree.pruned_of_mem (Tree.pruned_of_prune f h).2 hg)
    (Tree.leaves_subset_leavesOf hg)

end Filter

end RowFilter
