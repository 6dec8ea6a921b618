import RowFilter.Calendar.Zone.Database
import RowFilter.Proofs.Placeholders
import RowFilter.Proofs.Precedence
import RowFilter.Proofs.SelfContained
/-!
# The structure of compiled filters

The text of a compiled filter joins the fragments of its conditions as the filter joins the
conditions: whatever the truth values of the fragments are, the text has the value of the
filter. So do several such texts in one WHERE clause.

Results:
* `isOperand_fragments`: each fragment is an operand.
* `tokens_template`: a plan is written down as the tree of its fragments.
* `evaluate?_rendering`: the value of the text of a filter, and of the clause of several.
-/
namespace RowFilter

open Sql

/-! ## Fragments -/

namespace Sql

theorem tokens_term_ne_nil (d : Dialect) (t : Term) : t.tokens d ≠ [] := by
  cases t with
  | column table name => simp [Term.tokens]
  | element => cases d <;> decide
  | field t key =>
    cases d with
    | postgres =>
      have hkey : said ("->>'" ++ (key.name ++ "'")) ≠ [] := by cases key <;> decide
      exact List.append_ne_nil_of_right_ne_nil _ hkey
    | sqlite => exact List.append_ne_nil_of_left_ne_nil (by decide) _
  | asText t => exact List.append_ne_nil_of_left_ne_nil (by decide) _
  | ids t => exact List.append_ne_nil_of_left_ne_nil (by decide) _

theorem Predicate.words_ne_nil (d : Dialect) (p : Predicate) : p.words d ≠ [] := by
  have ht := tokens_term_ne_nil d
  cases p with
  | elementIsTrue => exact (by decide : said "json_each.type = 'true'" ≠ [])
  | notTrue p =>
    have hopening : said d.notTrueOpening ≠ [] := by cases d <;> decide
    exact List.append_ne_nil_of_left_ne_nil hopening _
  | someElement l array p =>
    rw [words, List.append_assoc]
    exact List.append_ne_nil_of_left_ne_nil (by decide) _
  | noElement l array p =>
    rw [words, List.append_assoc]
    exact List.append_ne_nil_of_left_ne_nil (by decide) _
  | both p q =>
    rw [words, List.append_assoc]
    exact List.append_ne_nil_of_left_ne_nil (by decide) _
  | _ => simp [words, ht]

theorem tokens_ne_nil {d : Dialect} {t : Template} (h : t.words ≠ []) (k : Nat) :
    t.tokens d k ≠ [] := by
  induction t with
  | nil => exact absurd rfl h
  | cons p t ih =>
    cases p with
    | sql s =>
      intro hnil
      obtain ⟨hs, ht⟩ := List.append_eq_nil_iff.mp hnil
      refine ih (fun hw => h ?_) ht
      rw [Template.words, hs, hw, List.append_nil]
    | value v => exact List.cons_ne_nil _ _
    | again => exact List.cons_ne_nil _ _

end Sql

/-- The fragment of a condition is an operand. -/
theorem Requirement.isOperand_tokens (d : Dialect) (table : Option String) (k : Nat)
    (r : Requirement) : IsOperand (((r.predicate d table).template d).tokens d k) := by
  have hw := ((r.predicate d table).reads_template d).2
  refine ⟨tokens_ne_nil ?_ k, ?_⟩
  · rw [hw]
    exact (r.predicate d table).words_ne_nil d
  · rw [SelfContained, Leads, walk_tokens, hw]
    exact ((r.predicate d table).leads_words d).2 (r.isAlternative_predicate d table)

theorem isOperand_fragments {d : Dialect} {table : Option String} (k : Nat)
    (rs : List Requirement) :
    ∀ f ∈ fragments d k (rs.map (Requirement.predicate d table)), IsOperand f := by
  induction rs generalizing k with
  | nil => intro f hf; cases hf
  | cons r rs ih =>
    intro f hf
    rcases List.mem_cons.mp hf with rfl | hf
    · exact r.isOperand_tokens d table k
    · exact ih _ f hf

/-! ## Plans as trees of fragments -/

namespace Plan

variable (d : Dialect)

mutual

/-- The fragments of a plan, joined as its predicates are. -/
def fragmentTree (d : Dialect) (k : Nat) : Plan → Tree (List Token)
  | .leaf p => .leaf ((p.template d).tokens d k)
  | .group c ts => .group c (fragmentTrees d k ts)

def fragmentTrees (d : Dialect) (k : Nat) : List Plan → List (Tree (List Token))
  | [] => []
  | t :: ts => fragmentTree d k t :: fragmentTrees d (k + (template d t).values.length) ts

end

mutual

theorem shape_fragmentTree (k : Nat) (t : Plan) : (fragmentTree d k t).shape = Tree.shape t := by
  cases t with
  | leaf p => rfl
  | group c ts => exact congrArg (Tree.group c) (shapes_fragmentTrees k ts)

theorem shapes_fragmentTrees (k : Nat) (ts : List Plan) :
    Tree.shapes (fragmentTrees d k ts) = Tree.shapes ts := by
  cases ts with
  | nil => rfl
  | cons t ts =>
    exact List.cons_eq_cons.mpr ⟨shape_fragmentTree k t, shapes_fragmentTrees _ ts⟩

end

mutual

theorem leaves_fragmentTree (k : Nat) (t : Plan) :
    (fragmentTree d k t).leaves = fragments d k t.leaves := by
  cases t with
  | leaf p => rfl
  | group c ts => exact leavesOf_fragmentTrees k ts

theorem leavesOf_fragmentTrees (k : Nat) (ts : List Plan) :
    Tree.leavesOf (fragmentTrees d k ts) = fragments d k (Tree.leavesOf ts) := by
  cases ts with
  | nil => rfl
  | cons t ts =>
    rw [fragmentTrees, Tree.leavesOf, leaves_fragmentTree k t, leavesOf_fragmentTrees _ ts,
      Tree.leavesOf, fragments_append, values_template]

end

mutual

/-- A plan is written down as the tree of its fragments. -/
theorem tokens_template (k : Nat) (t : Plan) :
    (template d t).tokens d k = spell (fragmentTree d k t).lexemes := by
  cases t with
  | leaf p => exact (List.append_nil _).symm
  | group c ts =>
    have hopening : said "(" = Lexeme.opening.tokens := said_of_tokens? (by decide)
    have hclosing : said ")" = Lexeme.closing.tokens := said_of_tokens? (by decide)
    rw [template, Template.parens, Template.tokens, Template.tokens_append, tokens_templates k c ts,
      Template.tokens, Template.tokens, hopening, hclosing, List.append_nil, fragmentTree,
      Tree.lexemes, spell_cons, spell_append]
    rfl

theorem tokens_templates (k : Nat) (c : Conjunction) (ts : List Plan) :
    (Template.join c.sql (templates d ts)).tokens d k
      = spell (Tree.joined c (fragmentTrees d k ts)) := by
  cases ts with
  | nil => rfl
  | cons t ts =>
    cases ts with
    | nil =>
      rw [templates, templates, Template.join, fragmentTrees, fragmentTrees,
        Tree.joined_singleton, tokens_template k t]
    | cons u us =>
      have hc : said c.sql = (Lexeme.joint c).tokens := by
        cases c <;> exact said_of_tokens? (by decide)
      have htail := tokens_templates (k + (template d t).values.length) c (u :: us)
      rw [templates] at htail
      rw [templates, templates, Template.join_cons_cons, Template.tokens_append,
        tokens_template k t, Template.tokens, htail, hc]
      show _ = spell (Tree.joined c
        (fragmentTree d k t :: fragmentTree d _ u :: fragmentTrees d _ us))
      rw [Tree.joined_cons_cons, spell_append, spell_cons]
      rfl

end

end Plan

/-! ## Rendered filters -/

/-- A filter that was compiled: what preparing left of it, the predicates of its conditions, and
its text and parameters. -/
structure Rendering where
  compiler : Compiler
  schema : Schema
  ctx : Context
  offset : Nat
  filter : Filter
  kept : Filter
  predicates : List Predicate
  out : CompiledPredicate
  prepared : filter.prepare schema compiler.actorPlaceholder ctx.actor = .ok (some kept)
  conditions : kept.leaves.mapM (compiler.condition schema ctx.now) = .ok predicates
  compiled : compiler.predicate schema ctx offset filter = .ok (some out)

namespace Rendering

/-- What the conditions are written as, one after the other. -/
def fragments (r : Rendering) : List (List Token) :=
  Sql.fragments r.compiler.dialect r.offset r.predicates

/-- The requirements that the text was written from. -/
theorem exists_requirements (r : Rendering) :
    ∃ rs : Tree Requirement, r.compiler.written r.offset rs = r.out ∧ rs.shape = r.kept.shape
      ∧ r.predicates
        = rs.leaves.map (Requirement.predicate r.compiler.dialect r.compiler.table) := by
  obtain ⟨rs, hrs, hout⟩ := r.compiler.predicate_ok r.schema r.compiled
  obtain ⟨g, hg, htr⟩ := r.compiler.requirements_ok r.schema hrs
  have hkept : r.kept = g := Option.some.inj (Except.ok.inj (r.prepared.symm.trans hg))
  have hps := r.conditions
  rw [hkept] at hps ⊢
  refine ⟨rs, hout, Tree.shape_of_traverse g htr, ?_⟩
  exact Except.ok.inj (hps.symm.trans (Compiler.leaves_of_traverse htr).1)

/-- The text of a rendered filter is that of a tree of its fragments, and each of these is an
operand. -/
theorem exists_tree (r : Rendering) :
    ∃ t : Tree (List Token), tokens? r.out.sql = some (spell t.lexemes) ∧ t.leaves = r.fragments
      ∧ t.shape = r.kept.shape ∧ ∀ f ∈ t.leaves, IsOperand f := by
  obtain ⟨rs, hout, hshape, hps⟩ := r.exists_requirements
  have hleaves : (Plan.fragmentTree r.compiler.dialect r.offset (r.compiler.planOf rs)).leaves
      = r.fragments := by
    rw [Plan.leaves_fragmentTree, fragments, hps, ← Tree.leaves_map]
    rfl
  refine ⟨Plan.fragmentTree r.compiler.dialect r.offset (r.compiler.planOf rs), ?_, hleaves, ?_, ?_⟩
  · rw [← hout, ← Plan.tokens_template]
    exact Plan.legible_template r.compiler.dialect (r.compiler.planOf rs) r.offset
  · rw [Plan.shape_fragmentTree, ← hshape]
    exact Tree.shape_map _ rs
  · rw [hleaves, fragments, hps]
    exact isOperand_fragments r.offset rs.leaves

/-- The same tree with a value for each fragment. -/
theorem exists_valued (r : Rendering) {u : Tree Truth} (hu : u.shape = r.kept.shape) :
    ∃ w : Tree (List Token × Truth), tokens? r.out.sql = some w.spelled ∧ w.map Prod.snd = u
      ∧ w.leaves = r.fragments.zip u.leaves ∧ w.Pruned ∧ ∀ f ∈ w.leaves, IsOperand f.1 := by
  obtain ⟨t, hts, hleaves, hshape, hoperands⟩ := r.exists_tree
  obtain ⟨w, rfl, rfl⟩ := Tree.exists_zip t u (hshape.trans hu.symm)
  rw [Tree.leaves_map] at hleaves hoperands
  refine ⟨w, hts, rfl, ?_, ?_, fun f hf => hoperands f.1 (List.mem_map_of_mem hf)⟩
  · rw [Tree.leaves_map]
    exact List.zip_of_prod hleaves rfl
  · have hkept := Tree.pruned_of_prune r.filter r.prepared
    exact (Tree.pruned_map Prod.snd w).mp (Tree.pruned_of_shape hu.symm hkept)

/-- Several rendered filters joined by AND are trees joined by AND. -/
theorem exists_valuedAll {rs : List Rendering} {us : List (Tree Truth)}
    (h : List.Forall₂ (fun r u => u.shape = r.kept.shape) rs us) (hne : rs ≠ []) :
    ∃ ws : List (Tree (List Token × Truth)),
      tokens? (String.intercalate " AND " (rs.map (·.out.sql))) = some (Tree.spelledAll .and ws)
        ∧ ws ≠ [] ∧ Tree.mapOf Prod.snd ws = us
        ∧ Tree.leavesOf ws = (rs.zip us).flatMap (fun x => x.1.fragments.zip x.2.leaves)
        ∧ Tree.AllPruned ws ∧ ∀ f ∈ Tree.leavesOf ws, IsOperand f.1 := by
  induction h with
  | nil => exact absurd rfl hne
  | @cons r u rs us hu hus ih =>
    obtain ⟨w, hts, hw, hleaves, hpruned, hoperands⟩ := r.exists_valued hu
    cases hus with
    | nil =>
      refine ⟨[w], ?_, List.cons_ne_nil w [], by rw [← hw]; rfl, ?_, ⟨hpruned, trivial⟩, ?_⟩
      · rw [List.map_singleton, String.intercalate_singleton, Tree.spelledAll_singleton, hts]
      · simp [Tree.leavesOf, hleaves]
      · simpa [Tree.leavesOf] using hoperands
    | @cons r' u' rs us hu' hus =>
      obtain ⟨ws, htail, hne', hws, hall, hpall, hoall⟩ := ih (List.cons_ne_nil _ _)
      obtain ⟨v, vs, rfl⟩ := List.exists_cons_of_ne_nil hne'
      refine ⟨w :: v :: vs, ?_, List.cons_ne_nil w _, by rw [← hw, ← hws]; rfl, ?_,
        ⟨hpruned, hpall⟩, ?_⟩
      · rw [List.map_cons] at htail
        rw [List.map_cons, List.map_cons, String.intercalate_cons_cons, tokens?_and hts htail,
          Tree.spelledAll_cons_cons, List.append_assoc]
        rfl
      · rw [Tree.leavesOf, hall, hleaves]
        rfl
      · intro f hf
        exact (List.mem_append.mp hf).elim (hoperands f) (hoall f)

end Rendering

/-- Boolean structure is preserved. Whatever truth values the leaves of a prepared filter have,
the text of the filter has the value of the tree, if the fragments of its conditions have those
of its leaves. The WHERE clause of a query with such predicates has the value of all of them. -/
theorem evaluate?_rendering :
    (∀ (r : Rendering) (u : Tree Truth), u.shape = r.kept.shape →
      (tokens? r.out.sql).bind (evaluate? (r.fragments.zip u.leaves)) = some u.value)
    ∧ ∀ (q : Query) (rs : List Rendering) (us : List (Tree Truth)),
      q.predicates = rs.map (·.out.sql) →
      List.Forall₂ (fun r u => u.shape = r.kept.shape) rs us →
      match q.whereClause? with
      | none => rs = []
      | some clause =>
        (tokens? clause).bind
            (evaluate? ((rs.zip us).flatMap fun x => x.1.fragments.zip x.2.leaves))
          = some (Truth.all (us.map Tree.value)) := by
  constructor
  · intro r u hu
    obtain ⟨w, hw, hvalues, hleaves, hpruned, hoperands⟩ := r.exists_valued hu
    rw [hw, Option.bind_some, ← hleaves, evaluate?_spelled hpruned hoperands, hvalues]
  · intro q rs us hq h
    rw [Query.whereClause?, hq]
    cases h with
    | nil => rfl
    | cons hu hus =>
      obtain ⟨ws, hts, hne, hvalues, hleaves, hpruned, hoperands⟩ :=
        Rendering.exists_valuedAll (.cons hu hus) (List.cons_ne_nil _ _)
      show (tokens? (String.intercalate " AND " _)).bind _ = _
      rw [hts, Option.bind_some, ← hleaves, evaluate?_spelledAll .and hpruned hne hoperands,
        hvalues, Tree.values_eq_map]
      rfl

/-- Numbers, and lists of tags. -/
def rankedTags : Schema :=
  Schema.ofList [{ id := "rank", dbName := "rank", semanticType := .number },
    { id := "tags", dbName := "tags", semanticType := .text, isMultiValued := true }]

/-- Rows of rank one, and rows from rank two up that have tags. -/
def firstOrTagged : Filter :=
  .group .or
    [.leaf { columnId := "rank", operator := "equals", value := .int 1 },
      .group .and
        [.leaf { columnId := "rank", operator := "greaterOrEqual", value := .int 2 },
          .group .or [.leaf { columnId := "tags", operator := "isNotEmpty", value := .null }]]]

/-- With a rank that is null and tags there, the filter is unknown, and so is a clause of it
twice. -/
theorem evaluate?_rendering_firstOrTagged :
    ∃ r : Rendering, r.filter = firstOrTagged
      ∧ (tokens? r.out.sql).bind (evaluate? (r.fragments.zip [.unknown, .unknown, .yes]))
        = some .unknown
      ∧ ∃ clause, (Query.mk .sqlite "SELECT 1" [r.out.sql, r.out.sql] []).whereClause? = some clause
        ∧ (tokens? clause).bind (evaluate? (r.fragments.zip [.unknown, .unknown, .yes]
            ++ r.fragments.zip [.yes, .unknown, .no])) = some .unknown := by
  let r : Rendering :=
    { compiler := .mk .sqlite .bundled .utc "me" none, schema := rankedTags, ctx := ⟨none, ⟨0, 0⟩⟩,
      offset := 0, filter := firstOrTagged, kept := _, predicates := _, out := _,
      prepared := rfl, conditions := rfl, compiled := rfl }
  let u (a b c : Truth) : Tree Truth :=
    .group .or [.leaf a, .group .and [.leaf b, .group .or [.leaf c]]]
  obtain ⟨htext, hclause⟩ := evaluate?_rendering
  refine ⟨r, rfl, htext r (u .unknown .unknown .yes) rfl, _, rfl, ?_⟩
  exact hclause (.mk .sqlite "SELECT 1" [r.out.sql, r.out.sql] []) [r, r]
    [u .unknown .unknown .yes, u .yes .unknown .no] rfl (.cons rfl (.cons rfl .nil))

end RowFilter
