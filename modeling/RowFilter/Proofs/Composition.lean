import RowFilter.Calendar.Zone.Database
import RowFilter.Proofs.Legible
import RowFilter.Proofs.Preparation
/-!
# Groups from their children

A group is compiled child by child. Each child reads as it would alone after the parameters
of the children before it, so that nothing but the number of parameters passes from one to
the next.

Results:
* `Template.text_join`: templates that are joined have the texts that they have one after
  the other.
* `written_group`: the predicate of a group from those of its children.
* `requirements_group`: a group of filters requires what its children do.
* `addTo_ok`: what a filter appends to a query.
* `predicate_group`: the predicate of a prepared group is made of its children's, each
  compiled alone, and two filters that are appended to a query append what their group is
  made of.
-/
namespace RowFilter

open Sql

/-! ## Texts -/

namespace Sql.Template

variable (d : Dialect) (k : Nat)

/-- The texts of templates one after the other. -/
def texts (d : Dialect) : Nat → List Template → List String
  | _, [] => []
  | k, t :: ts => t.text d k :: texts d (k + t.values.length) ts

theorem text_parens (t : Template) : (parens t).text d k = "(" ++ t.text d k ++ ")" := by
  rw [parens, text_cons_sql, text_append, text_sql, String.append_assoc]

/-- Templates that are joined have the texts that they have one after the other. -/
theorem text_join (separator : String) (ts : List Template) :
    (join separator ts).text d k = String.intercalate separator (texts d k ts) := by
  induction ts generalizing k with
  | nil => rfl
  | cons t ts ih =>
    cases ts with
    | nil => rw [join, texts, texts, String.intercalate_singleton]
    | cons u us =>
      show _ = String.intercalate separator
        (t.text d k :: u.text d (k + t.values.length) :: texts d _ us)
      rw [join_cons_cons, text_append, text_cons_sql, ih, String.intercalate_cons_cons,
        String.append_assoc]
      rfl

end Sql.Template

/-! ## Requirements of groups -/

namespace Tree

variable {α β ε : Type}

/-- A group, or none if it is empty. -/
def grouped (c : Conjunction) : List (Tree α) → Option (Tree α)
  | [] => none
  | ts => some (group c ts)

theorem traverseOf_append (f : α → Except ε β) (ts us : List (Tree α)) {vs ws : List (Tree β)}
    (ht : traverseOf f ts = .ok vs) (hu : traverseOf f us = .ok ws) :
    traverseOf f (ts ++ us) = .ok (vs ++ ws) := by
  induction ts generalizing vs with
  | nil => cases ht; exact hu
  | cons t ts ih =>
    rw [traverseOf] at ht
    obtain ⟨v, hv, ht⟩ := ok_of_bind ht
    obtain ⟨vs', hvs, ht⟩ := ok_of_bind ht
    cases ht
    rw [List.cons_append, traverseOf, hv, ih hvs]
    rfl

/-- The results of several trees, each that of the tree in its place. -/
theorem forall₂_of_traverseOf {f : α → Except ε β} {ts : List (Tree α)} {us : List (Tree β)}
    (h : traverseOf f ts = .ok us) :
    List.Forall₂ (fun t u => traverse f t = .ok u) ts us := by
  induction ts generalizing us with
  | nil => cases h; exact .nil
  | cons t ts ih =>
    rw [traverseOf] at h
    obtain ⟨u, hu, h⟩ := ok_of_bind h
    obtain ⟨vs, hvs, h⟩ := ok_of_bind h
    cases h
    exact .cons hu (ih hvs)

end Tree

namespace Compiler

variable {c : Compiler} {schema : Schema} {ctx : Context}

/-- A prepared filter requires what its conditions do. -/
theorem requirements_of_prepare {f g : Filter} {rs : Tree Requirement}
    (hf : f.prepare schema c.actorPlaceholder ctx.actor = .ok (some g))
    (hg : g.traverse (c.requirement schema ctx.now) = .ok rs) :
    c.requirements schema ctx f = .ok (some rs) := by
  rw [requirements, hf]
  show (g.traverse (c.requirement schema ctx.now)).map some = _
  rw [hg]
  rfl

/-- What is left of several filters, and what that requires. -/
theorem pruneOf_of_requirements {fs : List Filter} {os : List (Option (Tree Requirement))}
    (h : List.Forall₂ (fun f o => c.requirements schema ctx f = .ok o) fs os) :
    ∃ gs, Tree.pruneOf (Condition.prepare schema c.actorPlaceholder ctx.actor) fs = .ok gs
      ∧ Tree.traverseOf (c.requirement schema ctx.now) gs = .ok (os.flatMap Option.toList) := by
  induction h with
  | nil => exact ⟨[], rfl, rfl⟩
  | @cons f o fs os hf _ ih =>
    obtain ⟨gs, hgs, hrs⟩ := ih
    obtain ⟨g, hg, ho⟩ := ok_of_bind hf
    refine ⟨g.toList ++ gs, ?_, ?_⟩
    · have hp : Tree.prune (Condition.prepare schema c.actorPlaceholder ctx.actor) f = .ok g := hg
      rw [Tree.pruneOf, hp, hgs]
      rfl
    · rw [List.flatMap_cons]
      refine Tree.traverseOf_append _ _ _ ?_ hrs
      cases g with
      | none => cases ho; rfl
      | some g =>
        obtain ⟨r, hr, rfl⟩ := ok_of_map ho
        rw [Option.toList, Tree.traverseOf, hr]
        rfl

/-- A group of filters requires what its children do; one that requires nothing is left out. -/
theorem requirements_group (conj : Conjunction) {fs : List Filter}
    {os : List (Option (Tree Requirement))}
    (h : List.Forall₂ (fun f o => c.requirements schema ctx f = .ok o) fs os) :
    c.requirements schema ctx (.group conj fs)
      = .ok (Tree.grouped conj (os.flatMap Option.toList)) := by
  obtain ⟨gs, hgs, hrs⟩ := pruneOf_of_requirements h
  rw [requirements, Filter.prepare, Tree.prune, hgs]
  cases gs with
  | nil =>
    cases hrs' : os.flatMap Option.toList with
    | nil => rfl
    | cons r rs => rw [hrs'] at hrs; cases hrs
  | cons g gs =>
    show (Tree.traverse (c.requirement schema ctx.now) (.group conj (g :: gs))).map some = _
    rw [Tree.traverse, hrs]
    obtain ⟨r, rs, -, -, hcons⟩ := List.forall₂_cons_left_iff.mp (Tree.forall₂_of_traverseOf hrs)
    rw [hcons]
    rfl

/-! ## Predicates of groups -/

/-- The values that predicates bind, one after the other. -/
def bound (outs : List CompiledPredicate) : List Value := outs.flatMap fun o => o.params.values

theorem bound_append (outs outs' : List CompiledPredicate) :
    bound (outs ++ outs') = bound outs ++ bound outs' := List.flatMap_append

variable (c)

/-- Predicates one after the other, each numbered after those before it. -/
def writtenAll : Nat → List (Tree Requirement) → List CompiledPredicate
  | _, [] => []
  | k, r :: rs => c.written k r :: writtenAll (k + (c.written k r).params.values.length) rs

/-- The parentheses of a group. -/
def enclosed (conj : Conjunction) (k : Nat) (outs : List CompiledPredicate) : CompiledPredicate :=
  ⟨"(" ++ String.intercalate conj.sql (outs.map (·.sql)) ++ ")", c.dialect, k, bound outs⟩

theorem writtenAll_append (k : Nat) (rs ss : List (Tree Requirement)) :
    c.writtenAll k (rs ++ ss)
      = c.writtenAll k rs ++ c.writtenAll (k + (bound (c.writtenAll k rs)).length) ss := by
  induction rs generalizing k with
  | nil => rfl
  | cons r rs ih =>
    rw [List.cons_append, writtenAll, writtenAll, ih, List.cons_append, bound, bound,
      List.flatMap_cons, List.length_append, Nat.add_assoc]

theorem texts_templates (k : Nat) (rs : List (Tree Requirement)) :
    Template.texts c.dialect k (Plan.templates c.dialect
        (Tree.mapOf (Requirement.predicate c.dialect c.table) rs))
      = (c.writtenAll k rs).map (·.sql) := by
  induction rs generalizing k with
  | nil => rfl
  | cons r rs ih =>
    rw [Tree.mapOf, Plan.templates, Template.texts, writtenAll, List.map_cons, ih]
    rfl

theorem bound_writtenAll (k : Nat) (rs : List (Tree Requirement)) :
    bound (c.writtenAll k rs)
      = ((Plan.templates c.dialect (Tree.mapOf (Requirement.predicate c.dialect c.table) rs)).map
        Template.values).flatten := by
  induction rs generalizing k with
  | nil => rfl
  | cons r rs ih =>
    rw [Tree.mapOf, Plan.templates, List.map_cons, List.flatten_cons, ← ih, writtenAll, bound,
      List.flatMap_cons, ← bound]
    rfl

/-- The predicate of a group encloses those of its children. -/
theorem written_group (conj : Conjunction) (k : Nat) (rs : List (Tree Requirement)) :
    c.written k (.group conj rs) = c.enclosed conj k (c.writtenAll k rs) := by
  rw [enclosed, bound_writtenAll, ← texts_templates, ← Template.text_join, ← Template.text_parens,
    ← Template.values_join conj.sql, ← Template.values_parens]
  rfl

/-- Each of several predicates is numbered after the values of those before it. -/
theorem getElem_writtenAll (k : Nat) (rs : List (Tree Requirement)) (i : Nat)
    (h : i < (c.writtenAll k rs).length) (hr : i < rs.length) :
    (c.writtenAll k rs)[i] = c.written (k + (bound ((c.writtenAll k rs).take i)).length) rs[i] := by
  induction rs generalizing k i with
  | nil => cases hr
  | cons r rs ih =>
    cases i with
    | zero => rfl
    | succ i =>
      have hi := Nat.lt_of_succ_lt_succ hr
      have ho := Nat.lt_of_succ_lt_succ h
      refine (ih (k + (c.written k r).params.values.length) i ho hi).trans ?_
      rw [writtenAll, List.take_succ_cons, bound, bound, List.flatMap_cons, List.length_append,
        Nat.add_assoc]
      rfl

theorem length_writtenAll (k : Nat) (rs : List (Tree Requirement)) :
    (c.writtenAll k rs).length = rs.length := by
  induction rs generalizing k with
  | nil => rfl
  | cons r rs ih => rw [writtenAll, List.length_cons, List.length_cons, ih]

/-- What a filter appends to a query. -/
theorem addTo_ok {q q' : Query} {f : Filter} (h : c.addTo q schema ctx f = .ok q') :
    ∃ o, c.requirements schema ctx f = .ok o ∧ q.dialect = c.dialect
      ∧ q'.predicates = q.predicates ++ (c.writtenAll q.params.length o.toList).map (·.sql)
      ∧ q'.params = q.params ++ bound (c.writtenAll q.params.length o.toList) := by
  unfold addTo at h
  split at h
  · cases h
  · next hd =>
    obtain ⟨p, hp, h⟩ := ok_of_map h
    rw [predicate_eq] at hp
    obtain ⟨o, ho, rfl⟩ := ok_of_map hp
    refine ⟨o, ho, not_not.mp hd, ?_⟩
    cases o with
    | none =>
      cases h
      exact ⟨(List.append_nil _).symm, (List.append_nil _).symm⟩
    | some r =>
      cases h
      refine ⟨rfl, ?_⟩
      rw [Option.toList, writtenAll, writtenAll, bound, List.flatMap_singleton]
      rfl

/-- Compiling is compositional. The predicate of a filter that is prepared to a group encloses
the predicates of the children, each compiled alone after the parameters of those before it,
and binds their values in order. Two filters appended to a query one after the other append the
predicates and the values that the AND of both has in its parentheses. -/
theorem predicate_group (schema : Schema) (ctx : Context) :
    (∀ (k : Nat) (f : Filter) (conj : Conjunction) (gs : List Filter) (out : CompiledPredicate),
      f.prepare schema c.actorPlaceholder ctx.actor = .ok (some (.group conj gs)) →
      c.predicate schema ctx k f = .ok (some out) →
      ∃ outs, outs.length = gs.length ∧ out = c.enclosed conj k outs
        ∧ ∀ i (hg : i < gs.length) (ho : i < outs.length),
          c.predicate schema ctx (k + (bound (outs.take i)).length) gs[i] = .ok (some outs[i]))
    ∧ ∀ (q q₁ q₂ : Query) (f₁ f₂ : Filter),
      c.addTo q schema ctx f₁ = .ok q₁ → c.addTo q₁ schema ctx f₂ = .ok q₂ →
      ∃ outs, q₂.predicates = q.predicates ++ outs.map (·.sql) ∧ q₂.params = q.params ++ bound outs
        ∧ c.predicate schema ctx q.params.length (.group .and [f₁, f₂])
          = .ok (if outs.isEmpty then none else some (c.enclosed .and q.params.length outs)) := by
  constructor
  · intro k f conj gs out hprep hout
    obtain ⟨r, hr, rfl⟩ := c.predicate_ok schema hout
    obtain ⟨g, hg, htr⟩ := c.requirements_ok schema hr
    rw [hprep] at hg
    cases hg
    obtain ⟨rs, hrs, rfl⟩ := ok_of_map htr
    have hread := Tree.forall₂_of_traverseOf hrs
    have hlen := c.length_writtenAll k rs
    refine ⟨c.writtenAll k rs, hlen.trans hread.length_eq.symm, c.written_group conj k rs, ?_⟩
    intro i hi ho
    have hri : i < rs.length := hlen ▸ ho
    have hchild := Filter.prepare_children hprep gs[i] (List.getElem_mem hi)
    rw [predicate_eq, requirements_of_prepare hchild (hread.get hi hri),
      c.getElem_writtenAll k rs i ho hri]
    rfl
  · intro q q₁ q₂ f₁ f₂ h₁ h₂
    obtain ⟨o₁, ho₁, -, hp₁, hv₁⟩ := c.addTo_ok h₁
    obtain ⟨o₂, ho₂, -, hp₂, hv₂⟩ := c.addTo_ok h₂
    have hgroup := requirements_group .and (.cons ho₁ (.cons ho₂ .nil))
    rw [List.flatMap_cons, List.flatMap_singleton] at hgroup
    have hall := c.writtenAll_append q.params.length o₁.toList o₂.toList
    rw [hv₁, List.length_append] at hp₂ hv₂
    refine ⟨c.writtenAll q.params.length (o₁.toList ++ o₂.toList), ?_, ?_, ?_⟩
    · rw [hp₂, hp₁, hall, List.map_append, List.append_assoc]
    · rw [hv₂, hall, bound_append, List.append_assoc]
    · rw [predicate_eq, hgroup]
      cases o₁.toList ++ o₂.toList with
      | nil => rfl
      | cons r rs => exact congrArg (fun out => Except.ok (some out)) (c.written_group .and _ _)

end Compiler

/-- Numbers, and lists of tags. -/
def scoredTags : Schema :=
  Schema.ofList [{ id := "score", dbName := "score", semanticType := .number },
    { id := "tags", dbName := "tags", semanticType := .text, isMultiValued := true }]

/-- Scores from two up, with one of two tags. -/
def tagged : Filter :=
  .group .and
    [.leaf { columnId := "score", operator := "greaterOrEqual", value := .int 2 },
      .group .or [.leaf { columnId := "tags", operator := "contains", value := .null }],
      .leaf { columnId := "tags", operator := "anyOf", value := .arr [.str "a", .str "b"] }]

/-- No tags. -/
def untagged : Filter := .leaf { columnId := "tags", operator := "isEmpty", value := .null }

/-- The second child of `tagged` is dropped; the third is numbered after the first. Appended
before `untagged`, all of it stands in the first of two predicates. -/
theorem predicate_group_tagged :
    let c := Compiler.mk .postgres .bundled .utc "me" none
    let ctx := Context.mk none ⟨0, 0⟩
    (∃ outs out, c.predicate scoredTags ctx 4 tagged = .ok (some out)
        ∧ out = c.enclosed .and 4 outs ∧ outs.length = 2)
      ∧ ∃ outs q₁ q₂, c.addTo (c.query "SELECT 1") scoredTags ctx tagged = .ok q₁
        ∧ c.addTo q₁ scoredTags ctx untagged = .ok q₂ ∧ q₂.predicates = outs.map (·.sql)
        ∧ c.predicate scoredTags ctx 0 (.group .and [tagged, untagged])
          = .ok (if outs.isEmpty then none else some (c.enclosed .and 0 outs)) := by
  intro c ctx
  obtain ⟨hgroup, hquery⟩ := c.predicate_group scoredTags ctx
  obtain ⟨outs, hlen, hout, -⟩ := hgroup 4 tagged .and _ _ rfl rfl
  obtain ⟨outs', hpredicates, -, hand⟩ := hquery (c.query "SELECT 1") _ _ tagged untagged rfl rfl
  exact ⟨⟨outs, _, rfl, hout, hlen⟩, outs', _, _, rfl, rfl, hpredicates, hand⟩

end RowFilter
