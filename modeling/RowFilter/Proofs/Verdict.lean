import RowFilter.Calendar.Zone.Database
import RowFilter.Proofs.Refusal
/-!
# Verdicts on conditions

Each condition of a filter compiles, is dropped or fails, and so it does alone: where it stands,
what stands beside it and what was bound before have no part in that. What becomes of the filter
follows from what becomes of its conditions.

Results:
* `Tree.prune_eq_none_iff`: nothing is left of a tree exactly if none of its leaves is kept.
* `prepare_eq_none_iff`: which conditions are dropped, whoever asks.
* `predicate_eq_none_iff`: when neither a predicate nor an error comes of a filter.
* `predicate_of_alone`: what becomes of a filter, from what becomes of its conditions alone.
* `checked_of_accepted`: in a filter that is not refused the operators of all conditions are
  legal, those of the conditions aside that are dropped.
-/
namespace RowFilter

open Sql

/-! ## Trees that nothing is left of -/

namespace Tree

variable {α β ε : Type} {f : α → Except ε (Option β)}

mutual

theorem prune_eq_none_iff (t : Tree α) :
    prune f t = .ok none ↔ ∀ a ∈ t.leaves, f a = .ok none := by
  cases t with
  | leaf a =>
    rw [prune, leaves, List.forall_mem_singleton]
    cases f a with
    | error e => simp [Except.map]
    | ok b => cases b <;> simp [Except.map]
  | group c ts =>
    rw [leaves, ← pruneOf_eq_nil_iff ts, prune]
    cases pruneOf f ts with
    | error e => simp [bind, Except.bind]
    | ok us => cases us <;> simp [bind, Except.bind, pure, Except.pure]

theorem pruneOf_eq_nil_iff (ts : List (Tree α)) :
    pruneOf f ts = .ok [] ↔ ∀ a ∈ leavesOf ts, f a = .ok none := by
  cases ts with
  | nil => simp [pruneOf, leavesOf]
  | cons t ts =>
    rw [leavesOf, List.forall_mem_append, ← prune_eq_none_iff t, ← pruneOf_eq_nil_iff ts, pruneOf]
    cases prune f t with
    | error e => simp [bind, Except.bind]
    | ok u =>
      cases pruneOf f ts with
      | error e => simp [bind, Except.bind]
      | ok us => cases u <;> simp [bind, Except.bind, pure, Except.pure]

end

end Tree

/-! ## Conditions that are dropped -/

namespace Condition

variable {q w : Condition} {column : Column} {placeholder : String} {actor : Option String}

/-- Naming the actor in a value gives a condition no value to compare with, and takes none away. -/
theorem lacksValue_substitute (q : Condition) (column : Column) (placeholder actor : String) :
    lacksValue { q with value := q.value.substitute placeholder actor } column
      = q.lacksValue column := by
  rw [lacksValue, lacksValue]
  cases q.value with
  | arr items => cases items <;> rfl
  | str s =>
    obtain ⟨s', hs⟩ : ∃ s', (Json.str s).substitute placeholder actor = .str s' := by
      rw [Json.substitute]
      split <;> exact ⟨_, rfl⟩
    rw [hs]
  | obj fields =>
    obtain ⟨fields', hf⟩ :
        ∃ fields', (Json.obj fields).substitute placeholder actor = .obj fields' := by
      rw [Json.substitute]
      split
      · split <;> exact ⟨_, rfl⟩
      · exact ⟨_, rfl⟩
    rw [hf]
  | _ => rfl

theorem isVacuous_withActor (h : q.withActor column placeholder actor = .ok w) :
    w.isVacuous column = q.isVacuous column := by
  unfold withActor at h
  split at h
  · cases actor with
    | none => cases h
    | some actor =>
      cases h
      exact congrArg (!q.asksPresence column && ·)
        (lacksValue_substitute q column placeholder actor)
  · cases h; rfl

/-- A value that says nothing does not name the current user. -/
theorem withActor_of_lacksValue (h : q.lacksValue column = true) :
    q.withActor column placeholder actor = .ok q := by
  have hmentions : q.value.mentions placeholder = false := by
    unfold lacksValue at h
    split at h
    · next hv => rw [hv]; rfl
    · next items hv =>
      rw [hv, List.isEmpty_iff.mp h]
      rfl
    · cases h
  unfold withActor
  rw [hmentions, Bool.and_false]
  rfl

theorem exists_column_of_prepare {schema : Schema}
    (h : q.prepare schema placeholder actor = .ok none) :
    ∃ column, schema q.columnId = some column := by
  rw [prepare] at h
  cases hs : schema q.columnId with
  | none => rw [hs] at h; cases h
  | some column => exact ⟨column, rfl⟩

/-- On a column that there is a condition is dropped exactly if it is vacuous as it was given. -/
theorem prepare_eq_none_iff {schema : Schema} (hs : schema q.columnId = some column) :
    q.prepare schema placeholder actor = .ok none ↔ q.isVacuous column = true := by
  rw [prepare, hs]
  constructor
  · intro h
    obtain ⟨w, hw, h⟩ := ok_of_bind h
    rw [← isVacuous_withActor hw]
    cases hv : w.isVacuous column with
    | false => rw [hv] at h; cases h
    | true => rfl
  · intro h
    have hlacks := (Bool.and_eq_true_iff.mp h).2
    show (q.withActor column placeholder actor >>= _) = _
    rw [withActor_of_lacksValue hlacks]
    show Except.ok (if q.isVacuous column = true then none else some q) = _
    rw [if_pos h]

end Condition

/-! ## Filters and their conditions -/

namespace Compiler

variable {c : Compiler} {schema : Schema} {ctx : Context}

/-- Neither predicate nor error comes of a filter exactly if all of its conditions are dropped. -/
theorem predicate_eq_none_iff {k : Nat} {f : Filter} :
    c.predicate schema ctx k f = .ok none
      ↔ ∀ q ∈ f.leaves, q.prepare schema c.actorPlaceholder ctx.actor = .ok none := by
  rw [← Tree.prune_eq_none_iff, predicate_eq, requirements, Filter.prepare]
  cases Tree.prune (Condition.prepare schema c.actorPlaceholder ctx.actor) f with
  | error e => simp [bind, Except.bind, Except.map]
  | ok o =>
    cases o with
    | none => exact iff_of_true rfl rfl
    | some g =>
      show ((Tree.traverse (c.requirement schema ctx.now) g).map some).map _ = _ ↔ _
      cases Tree.traverse (c.requirement schema ctx.now) g <;> simp [Except.map]

/-- No condition of a filter that is not refused is refused. -/
theorem conditionFault?_of_predicate {k : Nat} {f : Filter} {o : Option CompiledPredicate}
    (h : c.predicate schema ctx k f = .ok o) {q : Condition} (hq : q ∈ f.leaves) :
    c.conditionFault? schema ctx q = none := by
  have hnone : FilterError.foremost (f.leaves.filterMap (c.conditionFault? schema ctx)) = none := by
    rw [← fault?_requirements, ← fault?_predicate c schema ctx k, h]
    rfl
  exact List.filterMap_eq_nil_iff.mp (FilterError.foremost_eq_none_iff.mp hnone) q hq

end Compiler

/-- What becomes of a filter, from what becomes of each of its conditions alone. It is refused
exactly if one of them is, and then for the first in document order that misses an actor if there
is one, and for the first that is refused if there is none. Neither predicate nor error comes of
it exactly if none comes of any of them. -/
theorem predicate_of_alone (c : Compiler) (schema : Schema) (ctx : Context) (j k : Nat)
    (f : Filter) :
    let alone := fun q : Condition => c.predicate schema ctx j (.leaf q)
    (∀ e, c.predicate schema ctx k f = .error e
      ↔ FilterError.foremost (f.leaves.filterMap fun q => fault? (alone q)) = some e)
    ∧ ((∃ e, c.predicate schema ctx k f = .error e) ↔ ∃ q ∈ f.leaves, ∃ e, alone q = .error e)
    ∧ (c.predicate schema ctx k f = .ok none ↔ ∀ q ∈ f.leaves, alone q = .ok none) := by
  intro alone
  have halone : (fun q => fault? (alone q)) = c.conditionFault? schema ctx :=
    funext fun q => c.fault?_leaf schema ctx j q
  have hfault : fault? (c.predicate schema ctx k f)
      = FilterError.foremost (f.leaves.filterMap fun q => fault? (alone q)) := by
    rw [halone, c.fault?_predicate, c.fault?_requirements]
  refine ⟨fun e => ?_, ?_, ?_⟩
  · rw [← hfault, fault?_eq_some]
  · rw [exists_error_iff, hfault, ne_eq, FilterError.foremost_eq_none_iff,
      List.filterMap_eq_nil_iff]
    simp only [exists_error_iff, not_forall, exists_prop, ne_eq]
  · rw [Compiler.predicate_eq_none_iff]
    refine forall₂_congr fun q _ => ?_
    rw [Compiler.predicate_eq_none_iff, Tree.leaves, List.forall_mem_singleton]

/-- In a filter that is not refused every condition is on a column that there is. It is dropped
exactly if it is vacuous, and if it is not, its operator text is that of an operator that is legal
on the column. -/
theorem checked_of_accepted {c : Compiler} {schema : Schema} {ctx : Context} {k : Nat} {f : Filter}
    {o : Option CompiledPredicate} (h : c.predicate schema ctx k f = .ok o) :
    ∀ q ∈ f.leaves, ∃ column, schema q.columnId = some column
      ∧ (c.predicate schema ctx k (.leaf q) = .ok none ↔ q.isVacuous column = true)
      ∧ (q.isVacuous column = false →
        ∃ op, q.operator? column.kind = some op ∧ op ∈ column.legalOperators) := by
  intro q hq
  have hdropped {column : Column} (hs : schema q.columnId = some column) :
      c.predicate schema ctx k (.leaf q) = .ok none ↔ q.isVacuous column = true := by
    rw [Compiler.predicate_eq_none_iff, Tree.leaves, List.forall_mem_singleton,
      Condition.prepare_eq_none_iff hs]
  rcases Compiler.conditionFault?_eq_none (Compiler.conditionFault?_of_predicate h hq) with
    hprep | ⟨q', r, hprep, hr⟩
  · obtain ⟨column, hs⟩ := Condition.exists_column_of_prepare hprep
    refine ⟨column, hs, hdropped hs, fun hv => ?_⟩
    rw [(Condition.prepare_eq_none_iff hs).mp hprep] at hv
    cases hv
  · obtain ⟨op, clock, hs, hop, -⟩ := c.requirement_ok schema hr
    obtain ⟨hop, hlegal⟩ := mem_legalOperators_of_resolve hop
    obtain ⟨hid, hoperator, hsymbol⟩ := Condition.prepare_ok hprep
    rw [hid] at hs
    refine ⟨r.column, hs, hdropped hs, fun _ => ⟨op, ?_, hlegal⟩⟩
    rw [← hop, Condition.operator?, Condition.operator?, hoperator, hsymbol]

/-- Numbers. -/
def scores : Schema :=
  Schema.ofList [{ id := "score", dbName := "score", semanticType := .number }]

/-- A condition without a value, its operator misspelt. -/
def misspelt : Condition := { columnId := "score", operator := "isEmtpy", value := .null }

/-- Scores above two. -/
def aboveTwo : Condition := { columnId := "score", operator := "greaterThan", value := .int 2 }

/-- `misspelt` is dropped, and the condition beside it is checked. -/
theorem checked_of_accepted_misspelt :
    let c := Compiler.mk .postgres .bundled .utc "me" none
    let f : Filter := .group .and [.leaf misspelt, .leaf aboveTwo]
    ∃ o, c.predicate scores ⟨none, ⟨0, 0⟩⟩ 0 f = .ok (some o)
      ∧ ∀ q ∈ f.leaves, ∃ column, scores q.columnId = some column
        ∧ (c.predicate scores ⟨none, ⟨0, 0⟩⟩ 0 (.leaf q) = .ok none ↔ q.isVacuous column = true)
        ∧ (q.isVacuous column = false →
          ∃ op, q.operator? column.kind = some op ∧ op ∈ column.legalOperators) := by
  intro c f
  obtain ⟨o, ho⟩ : ∃ o, c.predicate scores ⟨none, ⟨0, 0⟩⟩ 0 f = .ok (some o) := ⟨_, rfl⟩
  exact ⟨o, ho, checked_of_accepted ho⟩

/-- The operator of a condition that is dropped need not be one. -/
theorem not_checked_of_accepted :
    ¬ ∀ (c : Compiler) (schema : Schema) (ctx : Context) (k : Nat) (f : Filter)
      (o : Option CompiledPredicate), c.predicate schema ctx k f = .ok o →
      ∀ q ∈ f.leaves, ∃ column, schema q.columnId = some column
        ∧ ∃ op, q.operator? column.kind = some op ∧ op ∈ column.legalOperators := by
  intro hall
  obtain ⟨column, hs, op, hop, -⟩ := hall (.mk .postgres .bundled .utc "me" none) scores
    ⟨none, ⟨0, 0⟩⟩ 0 (.leaf misspelt) none rfl misspelt (List.mem_singleton.mpr rfl)
  cases hs
  cases hop

end RowFilter
