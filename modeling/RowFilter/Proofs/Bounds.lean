import Mathlib.Data.List.Sort
import Mathlib.Data.String.Basic
import RowFilter.Proofs.DepthLimit
import RowFilter.Proofs.Pruning
/-!
# How large filters are that are read and prepared

Whoever walks a filter that was read goes at most 64 levels down, whatever limits were set. A
group is an object or a list, and its children are a list in it, so that each group around a
condition takes two levels of the document; and the reader of documents goes no deeper than 127.
Preparing a filter takes parts out of it and puts none in.

Results:
* `two_mul_depth_le_of_ofJson?`: how deep a document nests at least that is a filter, in whichever
  forms its groups and conditions are written.
* `depth_le_of_read`: how deep a filter is at most that was read.
* `read_text_nested`: that this depth is reached.
* `depth_le_of_thinned`: a tree with parts left out is no deeper.
* `columnIds_sublist`: the column ids of a filter whose conditions name no others.
* `size_bounded`: the bounds on a filter that was read, and that preparing a filter adds nothing.
-/
namespace RowFilter

/-! ## Trees with parts left out -/

namespace Tree

variable {α β : Type} {drop : α → Prop} {R : α → β → Prop}

mutual

/-- A tree with parts left out is no deeper. -/
theorem depth_le_of_thinned {t : Tree α} {u : Tree β} (h : Thinned drop R t u) :
    u.depth ≤ t.depth := by
  cases h with
  | leaf h => exact Nat.le_refl 1
  | group c h =>
    have hts := depthOf_le_of_thinnedAll h
    simp only [depth]
    omega

theorem depthOf_le_of_thinnedAll {ts : List (Tree α)} {us : List (Tree β)}
    (h : ThinnedAll drop R ts us) : depthOf us ≤ depthOf ts := by
  cases h with
  | nil => exact Nat.le_refl 0
  | keep ht hts =>
    have ht := depth_le_of_thinned ht
    have hts := depthOf_le_of_thinnedAll hts
    simp only [depthOf]
    omega
  | leaveOut ht hts =>
    have hts := depthOf_le_of_thinnedAll hts
    simp only [depthOf]
    omega

end

end Tree

namespace Filter

/-! ## Column ids -/

section

variable {s id : String} {ids : List String}

theorem mem_insertSorted : id ∈ insertSorted s ids ↔ id = s ∨ id ∈ ids := by
  induction ids with
  | nil => simp [insertSorted]
  | cons t ts ih =>
    unfold insertSorted
    split
    · simp
    · split
      · rename_i heq
        simp [heq]
      · simp only [List.mem_cons, ih]
        exact or_left_comm

theorem ascending_insertSorted (h : ids.Pairwise (· < ·)) :
    (insertSorted s ids).Pairwise (· < ·) := by
  induction ids with
  | nil => exact List.pairwise_singleton _ s
  | cons t ts ih =>
    have hts := List.pairwise_cons.mp h
    unfold insertSorted
    split
    · rename_i hlt
      refine List.pairwise_cons.mpr ⟨?_, h⟩
      intro u hu
      rcases List.mem_cons.mp hu with rfl | hu
      · exact hlt
      · exact lt_trans hlt (hts.1 u hu)
    · split
      · exact h
      · rename_i hnlt hne
        refine List.pairwise_cons.mpr ⟨?_, ih hts.2⟩
        intro u hu
        rcases mem_insertSorted.mp hu with rfl | hu
        · exact lt_of_le_of_ne (not_lt.mp hnlt) (Ne.symm hne)
        · exact hts.1 u hu

end

variable {f g : Filter}

theorem mem_columnIds {id : String} : id ∈ f.columnIds ↔ ∃ c ∈ f.leaves, c.columnId = id := by
  unfold columnIds
  induction f.leaves with
  | nil => simp
  | cons c cs ih => simp [mem_insertSorted, ih, eq_comm]

/-- The column ids of a filter are ascending, and so each stands once. -/
theorem ascending_columnIds (f : Filter) : f.columnIds.Pairwise (· < ·) := by
  unfold columnIds
  induction f.leaves with
  | nil => exact .nil
  | cons c cs ih => exact ascending_insertSorted ih

/-- Column ids are left out, and none are put in, where conditions name no others. -/
theorem columnIds_sublist (h : ∀ c ∈ g.leaves, ∃ c' ∈ f.leaves, c'.columnId = c.columnId) :
    g.columnIds.Sublist f.columnIds := by
  have hsubset : g.columnIds ⊆ f.columnIds := by
    intro id hid
    obtain ⟨c, hc, rfl⟩ := mem_columnIds.mp hid
    exact mem_columnIds.mpr (h c hc)
  have hsubperm := List.subperm_of_subset (ascending_columnIds g).nodup hsubset
  exact List.sublist_of_subperm_of_pairwise hsubperm (ascending_columnIds g) (ascending_columnIds f)

/-! ## Filters that were read -/

section

variable {α : Type} {x y : Option α}

theorem eq_some_of_once? {old : Option α} (h : once? old y = some x) : x = y := by
  unfold once? at h
  split at h
  · cases h
  · obtain ⟨a, ha, rfl⟩ := Option.map_eq_some_iff.mp h
    exact ha.symm

theorem some_of_orElse {a : α} (h : (x <|> y) = some a) : x = some a ∨ y = some a := by
  cases x with
  | none => exact .inr h
  | some b => exact .inl h

end

/-- A group is one level deeper than its children. -/
theorem two_mul_depth_le_of_finish? {d : GroupDraft} {t : Filter} {n : Nat}
    (hd : 2 * Tree.depthOf (d.children.getD []) ≤ n) (h : d.finish? = some t) :
    2 * t.depth ≤ n + 2 := by
  unfold GroupDraft.finish? at h
  simp only [Option.bind_eq_bind, Option.bind_eq_some_iff, Option.pure_def,
    Option.some.injEq] at h
  obtain ⟨c, -, rfl⟩ := h
  simp only [Tree.depth]
  omega

theorem depth_of_readLeaf? {j : Json} {t : Filter} (h : (readCondition? j).map .leaf = some t) :
    t.depth = 1 := by
  obtain ⟨c, -, rfl⟩ := Option.map_eq_some_iff.mp h
  rfl

mutual

/-- Each group around a condition takes two levels of the document: the object or list that it is,
and the list of its children. -/
theorem two_mul_depth_le_of_ofJson? {j : Json} {t : Filter} (h : ofJson? j = some t) :
    2 * t.depth ≤ j.nesting + 1 := by
  cases j with
  | null | bool | int | float | str => cases h
  | arr items =>
    rw [ofJson?] at h
    rw [Json.nesting]
    rcases some_of_orElse h with h | h
    · have hgroup := two_mul_depth_le_of_readGroupItems h
      omega
    · have hleaf := depth_of_readLeaf? h
      omega
  | obj fields =>
    rw [ofJson?] at h
    rw [Json.nesting]
    rcases some_of_orElse h with h | h
    · obtain ⟨d, hd, h⟩ := Option.bind_eq_some_iff.mp h
      have hchildren := two_mul_depthOf_le_of_readGroupFields (Nat.zero_le _) (Nat.le_refl _) hd
      have hgroup := two_mul_depth_le_of_finish? hchildren h
      omega
    · have hleaf := depth_of_readLeaf? h
      omega

/-- What bounds the children of a draft and the fields to come bounds the children in the end. -/
theorem two_mul_depthOf_le_of_readGroupFields {fields : List (String × Json)} {d d' : GroupDraft}
    {n : Nat} (hd : 2 * Tree.depthOf (d.children.getD []) ≤ n)
    (hfields : Json.fieldsNesting fields ≤ n) (h : readGroupFields d fields = some d') :
    2 * Tree.depthOf (d'.children.getD []) ≤ n := by
  cases fields with
  | nil => cases h; exact hd
  | cons f fields =>
    obtain ⟨hf, hfields⟩ := Nat.max_le.mp hfields
    rw [readGroupFields] at h
    split at h
    · rw [Option.bind_eq_bind, Option.bind_eq_some_iff] at h
      obtain ⟨c, -, h⟩ := h
      refine two_mul_depthOf_le_of_readGroupFields ?_ hfields h
      exact hd
    · split at h
      · rw [Option.bind_eq_bind, Option.bind_eq_some_iff] at h
        obtain ⟨o, ho, h⟩ := h
        refine two_mul_depthOf_le_of_readGroupFields ?_ hfields h
        -- the children are those of this field, and no longer those of the draft
        have hread := eq_some_of_once? ho
        cases o with
        | none => exact Nat.zero_le n
        | some ts => exact Nat.le_trans (two_mul_depthOf_le_of_readChildren? hread.symm) hf
      · exact two_mul_depthOf_le_of_readGroupFields hd hfields h

theorem two_mul_depth_le_of_readGroupItems {items : List Json} {t : Filter}
    (h : readGroupItems items = some t) : 2 * t.depth ≤ Json.itemsNesting items + 2 := by
  match items with
  | [] => cases h
  | [conjunction] =>
    obtain ⟨c, -, rfl⟩ := Option.map_eq_some_iff.mp h
    exact Nat.le_add_left 2 _
  | [conjunction, children] =>
    simp only [readGroupItems, Option.bind_eq_bind, Option.bind_eq_some_iff, Option.pure_def,
      Option.some.injEq] at h
    obtain ⟨c, -, ts, hts, rfl⟩ := h
    have hchildren := two_mul_depthOf_le_of_readChildren? hts
    simp only [Tree.depth, Json.itemsNesting]
    omega
  | _ :: _ :: _ :: _ => cases h

theorem two_mul_depthOf_le_of_readChildren? {j : Json} {ts : List Filter}
    (h : readChildren? j = some ts) : 2 * Tree.depthOf ts ≤ j.nesting := by
  cases j with
  | null | bool | int | float | str | obj => cases h
  | arr items =>
    have hts := two_mul_depthOf_le_of_readFilters? h
    rw [Json.nesting]
    omega

theorem two_mul_depthOf_le_of_readFilters? {items : List Json} {ts : List Filter}
    (h : readFilters? items = some ts) : 2 * Tree.depthOf ts ≤ Json.itemsNesting items + 1 := by
  cases items with
  | nil => cases h; exact Nat.zero_le _
  | cons j items =>
    simp only [readFilters?, Option.bind_eq_bind, Option.bind_eq_some_iff, Option.pure_def,
      Option.some.injEq] at h
    obtain ⟨t, ht, ts, hts, rfl⟩ := h
    have ht := two_mul_depth_le_of_ofJson? ht
    have hts := two_mul_depthOf_le_of_readFilters? hts
    simp only [Tree.depthOf, Json.itemsNesting]
    omega

end

/-- The reader of documents bounds the depth of a filter, where the limits do not. -/
theorem depth_le_of_read {limits : Limits} {text : String} (h : read limits text = .ok f) :
    f.depth ≤ 64 := by
  obtain ⟨-, htext, -⟩ := read_eq_ok_iff.mp h
  obtain ⟨j, rest, hread, hj⟩ := ofText_eq_ok htext
  have hnesting := Json.nesting_le_of_read? hread
  have hdepth := two_mul_depth_le_of_ofJson? hj
  rw [Json.maxNesting] at hnesting
  omega

theorem nesting_nested (n : Nat) : (nested n).toJson.nesting = 2 * n + 1 := by
  induction n with
  | zero => rfl
  | succ n ih =>
    simp only [nested, toJson, toJsons, Json.nesting, Json.fieldsNesting, Json.itemsNesting, ih]
    omega

theorem roundTrips_nested (n : Nat) : ∀ c ∈ (nested n).leaves, c.value.RoundTrips := by
  intro c hc
  have hsettled := settled_nested n c hc
  rw [leaves_nested, List.mem_singleton] at hc
  subst hc
  exact Json.roundTrips_iff.mpr ⟨hsettled, rfl, Nat.zero_le _⟩

/-- Every depth up to the limit on it and to 64 is that of a filter that is read, if the other
limits leave room for it. -/
theorem read_text_nested {limits : Limits} {n : Nat} (hsize : 35 * n + 67 ≤ limits.maxJsonBytes)
    (hcount : 1 ≤ limits.maxConditions) (hdepth : n + 1 ≤ min limits.maxDepth 64) :
    read limits (nested n).text = .ok (nested n) := by
  obtain ⟨hlimit, hreader⟩ := Nat.le_min.mp hdepth
  have hnesting : (nested n).toJson.nesting ≤ Json.maxNesting := by
    rw [nesting_nested, Json.maxNesting]
    omega
  refine read_eq_ok_iff.mpr ⟨?_, ofText_text (roundTrips_nested n) hnesting, ?_, ?_⟩
  · rwa [utf8ByteSize_nested]
  · rwa [Tree.leafCount, leaves_nested]
  · rwa [depth_nested]

/-! ## Filters that were prepared -/

section

variable {schema : Schema} {placeholder : String} {actor : Option String}

theorem thinned_of_prepare (h : f.prepare schema placeholder actor = .ok (some g)) :
    Tree.Thinned (·.isVacuousIn schema = true) (Condition.IsLeft schema) f g :=
  Tree.thinned_of_prune (fun _ => Condition.prepare_eq_none_iff_isVacuousIn.mp)
    (fun _ _ => Condition.isLeft_of_prepare) f h

theorem leafCount_le_of_prepare (h : f.prepare schema placeholder actor = .ok (some g)) :
    g.leafCount ≤ f.leafCount := by
  have hleaves := Tree.forall₂_of_thinned (fun _ _ hleft => hleft.not_vacuous) (thinned_of_prepare h)
  rw [Tree.leafCount, Tree.leafCount, ← hleaves.length_eq]
  exact List.length_filter_le _ _

theorem columnIds_sublist_of_prepare (h : f.prepare schema placeholder actor = .ok (some g)) :
    g.columnIds.Sublist f.columnIds := by
  refine columnIds_sublist fun c hc => ?_
  obtain ⟨c', hc', hprepare⟩ := mem_leaves_of_prepare h hc
  exact ⟨c', hc', (Condition.prepare_ok hprepare).1.symm⟩

end

/-- A filter that was read is no deeper than 64 and than its limit on depth, and has no more
conditions than its limit on them, whatever the text and the limits. What is left of any filter
when it is prepared is no deeper than the filter, has no more conditions, and names no column that
the filter does not name. -/
theorem size_bounded (schema : Schema) (placeholder : String) (actor : Option String) :
    (∀ (limits : Limits) (text : String) (f : Filter), read limits text = .ok f →
      f.depth ≤ min limits.maxDepth 64 ∧ f.leafCount ≤ limits.maxConditions)
    ∧ ∀ f g : Filter, f.prepare schema placeholder actor = .ok (some g) →
      g.depth ≤ f.depth ∧ g.leafCount ≤ f.leafCount ∧ g.columnIds.Sublist f.columnIds := by
  constructor
  · intro limits text f h
    obtain ⟨-, -, hcount, hdepth⟩ := read_eq_ok_iff.mp h
    exact ⟨Nat.le_min.mpr ⟨hdepth, depth_le_of_read h⟩, hcount⟩
  · intro f g h
    exact ⟨Tree.depth_le_of_thinned (thinned_of_prepare h), leafCount_le_of_prepare h,
      columnIds_sublist_of_prepare h⟩

/-- A depth of 64 is reached where the limit is greater; and of a filter of two columns, three
levels deep, one condition is left and one group around it. -/
theorem size_bounded_nested :
    let limits : Limits := ⟨65536, 200, 1000⟩
    let padded := amongPadded "me" "ann"
    let left := among "bob" "ann"
    read limits (nested 63).text = .ok (nested 63)
      ∧ (nested 63).depth = 64
      ∧ (nested 63).depth ≤ min limits.maxDepth 64
      ∧ (nested 63).leafCount ≤ limits.maxConditions
      ∧ padded.prepare staffed "me" (some "bob") = .ok (some left)
      ∧ left.depth ≤ padded.depth
      ∧ left.leafCount ≤ padded.leafCount
      ∧ left.columnIds.Sublist padded.columnIds := by
  intro limits padded left
  obtain ⟨hread, hprepare⟩ := size_bounded staffed "me" (some "bob")
  have hnested : read limits (nested 63).text = .ok (nested 63) :=
    read_text_nested (by decide) (by decide) (by decide)
  have hleft : padded.prepare staffed "me" (some "bob") = .ok (some left) := rfl
  obtain ⟨hdepth, hcount⟩ := hread limits _ _ hnested
  exact ⟨hnested, depth_nested 63, hdepth, hcount, hleft, hprepare padded left hleft⟩

end Filter

end RowFilter
