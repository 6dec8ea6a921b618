import Mathlib.Data.List.Forall2
import RowFilter.Compiler
import RowFilter.Tree.Lemmas
/-!
# What conditions require

Compiling a condition reads it first and writes it down then. What is read, a criterion on a
column, has nothing of a dialect or of the table in it: `Compiler.requirement` is the reading
and `Requirement.predicate` the writing.

Results:
* `condition_eq`: a condition is compiled by reading it and writing down what was read.
* `plan_eq`: so is a filter, condition by condition.
* `predicate_eq`: the text and the parameters are those of the requirements written down.
* `predicate_ok`, `requirements_ok`, `requirement_ok`: what a filter that was compiled went
  through, one step each.
-/
namespace RowFilter

open Sql

/-! ## Results that are replaced -/

theorem ok_of_map {α β ε : Type} {f : α → β} {x : Except ε α} {b : β} (h : x.map f = .ok b) :
    ∃ a, x = .ok a ∧ f a = b := by
  cases x with
  | error e => cases h
  | ok a => exact ⟨a, rfl, Except.ok.inj h⟩

theorem ok_of_bind {α β ε : Type} {f : α → Except ε β} {x : Except ε α} {b : β}
    (h : x >>= f = .ok b) : ∃ a, x = .ok a ∧ f a = .ok b := by
  cases x with
  | error e => cases h
  | ok a => exact ⟨a, rfl, h⟩

theorem error_of_map {α β ε : Type} {f : α → β} {x : Except ε α} {e : ε}
    (h : x.map f = .error e) : x = .error e := by
  cases x with
  | error e => exact congrArg _ (Except.error.inj h)
  | ok a => cases h

theorem error_of_bind {α β ε : Type} {f : α → Except ε β} {x : Except ε α} {e : ε}
    (h : x >>= f = .error e) : x = .error e ∨ ∃ a, x = .ok a ∧ f a = .error e := by
  cases x with
  | error e => exact .inl (congrArg _ (Except.error.inj h))
  | ok a => exact .inr ⟨a, rfl, h⟩

theorem map_bind {α β γ ε : Type} (x : Except ε α) (f : α → Except ε β) (g : β → γ) :
    (x >>= f).map g = x >>= fun a => (f a).map g := by
  cases x <;> rfl

theorem map_map {α β γ ε : Type} (x : Except ε α) (f : α → β) (g : β → γ) :
    (x.map f).map g = x.map (g ∘ f) := by
  cases x <;> rfl

/-- The results of a list, each that of the element in its place. -/
theorem forall₂_of_mapM {α β ε : Type} {f : α → Except ε β} {as : List α} {bs : List β}
    (h : as.mapM f = .ok bs) : List.Forall₂ (fun a b => f a = .ok b) as bs := by
  induction as generalizing bs with
  | nil => cases h; exact .nil
  | cons a as ih =>
    rw [List.mapM_cons] at h
    obtain ⟨b, hb, h⟩ := ok_of_bind h
    obtain ⟨bs', hbs, h⟩ := ok_of_bind h
    cases h
    exact .cons hb (ih hbs)

theorem exists_mem_of_forall₂ {α β : Type} {R : α → β → Prop} {as : List α} {bs : List β}
    (h : List.Forall₂ R as bs) {b : β} (hb : b ∈ bs) : ∃ a ∈ as, R a b := by
  induction h with
  | nil => cases hb
  | cons hab _ ih =>
    rcases List.mem_cons.mp hb with rfl | hb
    · exact ⟨_, List.mem_cons_self, hab⟩
    · obtain ⟨a, ha, hr⟩ := ih hb
      exact ⟨a, List.mem_cons_of_mem _ ha, hr⟩

namespace Tree

variable {α β γ ε : Type}

mutual

/-- Replacing the leaves of a traversed tree is replacing them on the way. -/
theorem traverse_map (f : α → Except ε β) (g : β → γ) (t : Tree α) :
    traverse (fun a => (f a).map g) t = (traverse f t).map (map g) := by
  cases t with
  | leaf a => rw [traverse, traverse, map_map, map_map]; rfl
  | group c ts => rw [traverse, traverse, traverseOf_map f g ts, map_map, map_map]; rfl

theorem traverseOf_map (f : α → Except ε β) (g : β → γ) (ts : List (Tree α)) :
    traverseOf (fun a => (f a).map g) ts = (traverseOf f ts).map (mapOf g) := by
  cases ts with
  | nil => rfl
  | cons t ts =>
    rw [traverseOf, traverseOf, traverse_map f g t, traverseOf_map f g ts]
    cases traverse f t with
    | error e => rfl
    | ok u => cases traverseOf f ts <;> rfl

end

end Tree

/-! ## Values of plans -/

namespace Plan

mutual

theorem values_template (d : Dialect) (t : Plan) :
    (template d t).values = t.leaves.flatMap fun p => (p.template d).values := by
  cases t with
  | leaf p => rw [template, Tree.leaves, List.flatMap_singleton]
  | group c ts =>
    rw [template, Template.values_parens, Template.values_join, values_templates d ts]
    rfl

theorem values_templates (d : Dialect) (ts : List Plan) :
    ((templates d ts).map Template.values).flatten
      = (Tree.leavesOf ts).flatMap fun p => (p.template d).values := by
  cases ts with
  | nil => rfl
  | cons t ts =>
    rw [templates, List.map_cons, List.flatten_cons, values_template d t, values_templates d ts,
      Tree.leavesOf, List.flatMap_append]

end

end Plan

/-! ## Requirements -/

/-- What a condition requires of a column. -/
structure Requirement where
  column : Column
  criterion : Criterion column.cardinality

/-- The predicate that checks a requirement. -/
def Requirement.predicate (d : Dialect) (table : Option String) (r : Requirement) : Predicate :=
  match d with
  | .postgres => Postgres.predicate r.column.kind (.column table r.column.dbName) r.criterion
  | .sqlite => Sqlite.predicate r.column.kind (.column table r.column.dbName) r.criterion

/-- A kind of cell has a use for every operator that is legal on it. -/
theorem isSome_read? {kind : CellKind} {n : Cardinality} {op : Operator}
    (h : op ∈ legalOperators kind n) (id : String) (clock : Clock) (v : Json) :
    (Criterion.read? kind n ⟨id, op, clock⟩ v).isSome = true := by
  cases kind <;> cases n <;> cases op <;> first | rfl | exact absurd h (by decide)

theorem mem_legalOperators_of_resolve {q : Condition} {column : Column} {op : Operator}
    (h : q.resolve column = .ok op) :
    q.operator? column.kind = some op ∧ op ∈ column.legalOperators := by
  rw [Condition.resolve] at h
  split at h
  · cases h
  · split at h
    · cases h
      exact ⟨‹_›, ‹_›⟩
    · cases h

namespace Compiler

variable (c : Compiler) (schema : Schema)

/-- The zone that the dates of a column are in. -/
def zone (column : Column) : Except FilterError Zone :=
  if column.kind = .datetime then column.zone c.zones c.defaultZone else .ok c.defaultZone

/-- The look at a date filter that comes before the zone of its column. -/
def dateCheck (now : Instant) (column : Column) (op : Operator) (v : Json) :
    Except FilterError Unit :=
  if column.kind = .datetime ∧ op.takesDateFilter then
    (Criterion.Site.dateFilter ⟨column.id, op, ⟨c.defaultZone, now⟩⟩ v).map fun _ => ()
  else .ok ()

/-- The requirement of a condition. Neither the dialect nor the table has a part in it. -/
def requirement (now : Instant) (q : Condition) : Except FilterError Requirement := do
  match schema q.columnId with
  | none => .error (.unknownColumn q.columnId)
  | some column =>
    let op ← q.resolve column
    c.dateCheck now column op q.value
    let zone ← c.zone column
    match Criterion.read? column.kind column.cardinality ⟨column.id, op, ⟨zone, now⟩⟩ q.value with
    | none => .error (.unsupported column.id op "")
    | some criterion => criterion.map fun criterion => ⟨column, criterion⟩

/-- The requirements of the conditions of a filter, joined as the conditions are. -/
def requirements (ctx : Context) (f : Filter) : Except FilterError (Option (Tree Requirement)) := do
  match ← f.prepare schema c.actorPlaceholder ctx.actor with
  | none => return none
  | some f => (Tree.traverse (c.requirement schema ctx.now) f).map some

/-- What follows once the operator and the zone are known. -/
theorem target_predicate_eq {column : Column} {op : Operator} (clock : Clock) (v : Json)
    (h : op ∈ column.legalOperators) :
    ∃ x, Criterion.read? column.kind column.cardinality ⟨column.id, op, clock⟩ v = some x ∧
      (Target.mk c.dialect column c.table clock).predicate op v
        = (x.map fun q => ⟨column, q⟩).map (Requirement.predicate c.dialect c.table) := by
  obtain ⟨x, hx⟩ := Option.isSome_iff_exists.mp (isSome_read? h column.id clock v)
  refine ⟨x, hx, ?_⟩
  rw [Target.predicate, hx, map_map]
  rfl

theorem condition_of_schema {now : Instant} {q : Condition} {column : Column}
    (h : schema q.columnId = some column) :
    c.condition schema now q = (do
      let op ← q.resolve column
      c.dateCheck now column op q.value
      let zone ← c.zone column
      (Target.mk c.dialect column c.table ⟨zone, now⟩).predicate op q.value) := by
  rw [condition, h]
  show (q.resolve column >>= _) = (q.resolve column >>= _)
  refine congrArg _ (funext fun op => ?_)
  have ht : c.target now column
      = (c.zone column).map fun zone => ⟨c.dialect, column, c.table, ⟨zone, now⟩⟩ := by
    rw [target, zone]
    split <;> rfl
  simp only [ht, dateCheck]
  split
  · cases Criterion.Site.dateFilter ⟨column.id, op, ⟨c.defaultZone, now⟩⟩ q.value with
    | error e => rfl
    | ok _ => cases c.zone column <;> rfl
  · cases c.zone column <;> rfl

theorem requirement_of_schema {now : Instant} {q : Condition} {column : Column}
    (h : schema q.columnId = some column) :
    c.requirement schema now q = (do
      let op ← q.resolve column
      c.dateCheck now column op q.value
      let zone ← c.zone column
      match Criterion.read? column.kind column.cardinality ⟨column.id, op, ⟨zone, now⟩⟩ q.value with
      | none => .error (.unsupported column.id op "")
      | some criterion => criterion.map fun criterion => ⟨column, criterion⟩) := by
  rw [requirement, h]

theorem condition_eq (now : Instant) (q : Condition) :
    c.condition schema now q
      = (c.requirement schema now q).map (Requirement.predicate c.dialect c.table) := by
  cases hs : schema q.columnId with
  | none => rw [condition, requirement, hs]; rfl
  | some column =>
    rw [c.condition_of_schema schema hs, c.requirement_of_schema schema hs, map_bind]
    cases hop : q.resolve column with
    | error e => rfl
    | ok op =>
      simp only [bind, Except.bind]
      cases c.dateCheck now column op q.value with
      | error e => rfl
      | ok _ =>
        cases c.zone column with
        | error e => rfl
        | ok zone =>
          obtain ⟨x, hx, hp⟩ := c.target_predicate_eq ⟨zone, now⟩ q.value
            (mem_legalOperators_of_resolve hop).2
          simp only [hx, hp]

theorem plan_eq (ctx : Context) (f : Filter) :
    c.plan schema ctx f
      = (c.requirements schema ctx f).map
        (·.map (Tree.map (Requirement.predicate c.dialect c.table))) := by
  have hc : c.condition schema ctx.now
      = fun q => (c.requirement schema ctx.now q).map (Requirement.predicate c.dialect c.table) :=
    funext (c.condition_eq schema ctx.now)
  rw [plan, requirements, map_bind]
  refine congrArg _ (funext fun f => ?_)
  cases f with
  | none => rfl
  | some f => simp only [hc, Tree.traverse_map, map_map]; rfl

/-- The plan of requirements, in the dialect of the compiler. -/
def planOf (rs : Tree Requirement) : Plan := rs.map (Requirement.predicate c.dialect c.table)

/-- The predicate of requirements, numbered after `k` parameters. -/
def written (k : Nat) (rs : Tree Requirement) : CompiledPredicate :=
  let t := (c.planOf rs).template c.dialect
  ⟨t.text c.dialect k, c.dialect, k, t.values⟩

theorem predicate_eq (ctx : Context) (k : Nat) (f : Filter) :
    c.predicate schema ctx k f = (c.requirements schema ctx f).map (·.map (c.written k)) := by
  rw [predicate, plan_eq, map_map]
  cases c.requirements schema ctx f with
  | error e => rfl
  | ok rs => cases rs <;> rfl

/-- What was read where a predicate was compiled. -/
theorem predicate_ok {ctx : Context} {k : Nat} {f : Filter} {out : CompiledPredicate}
    (h : c.predicate schema ctx k f = .ok (some out)) :
    ∃ rs, c.requirements schema ctx f = .ok (some rs) ∧ c.written k rs = out := by
  rw [predicate_eq] at h
  obtain ⟨rs, hrs, hout⟩ := ok_of_map h
  cases rs with
  | none => cases hout
  | some rs => exact ⟨rs, hrs, Option.some.inj hout⟩

theorem requirements_ok {ctx : Context} {f : Filter} {rs : Tree Requirement}
    (h : c.requirements schema ctx f = .ok (some rs)) :
    ∃ g, f.prepare schema c.actorPlaceholder ctx.actor = .ok (some g)
      ∧ g.traverse (c.requirement schema ctx.now) = .ok rs := by
  obtain ⟨g, hg, hrs⟩ := ok_of_bind h
  cases g with
  | none => cases hrs
  | some g =>
    obtain ⟨rs', hrs', heq⟩ := ok_of_map hrs
    exact ⟨g, hg, hrs'.trans (congrArg _ (Option.some.inj heq))⟩

theorem requirement_ok {now : Instant} {q : Condition} {r : Requirement}
    (h : c.requirement schema now q = .ok r) :
    ∃ op clock, schema q.columnId = some r.column ∧ q.resolve r.column = .ok op
      ∧ Criterion.read? r.column.kind r.column.cardinality ⟨r.column.id, op, clock⟩ q.value
        = some (.ok r.criterion) := by
  cases hs : schema q.columnId with
  | none => rw [requirement, hs] at h; cases h
  | some column =>
    rw [c.requirement_of_schema schema hs] at h
    obtain ⟨op, hop, h⟩ := ok_of_bind h
    obtain ⟨_, -, h⟩ := ok_of_bind h
    obtain ⟨zone, -, h⟩ := ok_of_bind h
    obtain ⟨x, hx⟩ := Option.isSome_iff_exists.mp
      (isSome_read? (mem_legalOperators_of_resolve hop).2 column.id ⟨zone, now⟩ q.value)
    rw [hx] at h
    obtain ⟨criterion, rfl, rfl⟩ := ok_of_map h
    exact ⟨op, ⟨zone, now⟩, rfl, hop, hx⟩

/-- What the conditions of a filter compiled to. -/
theorem leaves_of_traverse {c : Compiler} {schema : Schema} {now : Instant} {g : Filter}
    {rs : Tree Requirement} (h : g.traverse (c.requirement schema now) = .ok rs) :
    g.leaves.mapM (c.condition schema now)
        = .ok (rs.leaves.map (Requirement.predicate c.dialect c.table))
      ∧ List.Forall₂ (fun q r => c.requirement schema now q = .ok r) g.leaves rs.leaves := by
  have hc : c.condition schema now
      = fun q => (c.requirement schema now q).map (Requirement.predicate c.dialect c.table) :=
    funext (c.condition_eq schema now)
  refine ⟨?_, forall₂_of_mapM (Tree.mapM_leaves_of_traverse g h)⟩
  have ht : g.traverse (c.condition schema now)
      = .ok (rs.map (Requirement.predicate c.dialect c.table)) := by
    rw [hc, Tree.traverse_map, h]
    rfl
  rw [Tree.mapM_leaves_of_traverse g ht, Tree.leaves_map]

theorem values_written (k : Nat) (rs : Tree Requirement) :
    (c.written k rs).params.values = (rs.leaves.map (Requirement.predicate c.dialect c.table)).flatMap
      fun p => (p.template c.dialect).values := by
  rw [← Tree.leaves_map]
  exact Plan.values_template c.dialect (c.planOf rs)

end Compiler

/-! ## Prepared conditions -/

/-- Preparing a condition changes nothing but its value. -/
theorem Condition.prepare_ok {schema : Schema} {placeholder : String} {actor : Option String}
    {q q' : Condition} (h : q.prepare schema placeholder actor = .ok (some q')) :
    q'.columnId = q.columnId ∧ q'.operator = q.operator ∧ q'.isSymbol = q.isSymbol := by
  rw [Condition.prepare] at h
  cases hs : schema q.columnId with
  | none =>
    rw [hs] at h
    cases h
    exact ⟨rfl, rfl, rfl⟩
  | some column =>
    rw [hs] at h
    obtain ⟨w, hw, h⟩ := ok_of_bind h
    have hsame : w.columnId = q.columnId ∧ w.operator = q.operator ∧ w.isSymbol = q.isSymbol := by
      unfold Condition.withActor at hw
      split at hw
      · split at hw
        · cases hw; exact ⟨rfl, rfl, rfl⟩
        · cases hw
      · cases hw; exact ⟨rfl, rfl, rfl⟩
    split at h
    · cases h
    · cases h
      exact hsame

/-- Every leaf of a prepared filter is one of the filter's, prepared. -/
theorem Filter.mem_leaves_of_prepare {schema : Schema} {placeholder : String}
    {actor : Option String} {f g : Filter}
    (h : f.prepare schema placeholder actor = .ok (some g)) {q' : Condition} (hq : q' ∈ g.leaves) :
    ∃ q ∈ f.leaves, q.prepare schema placeholder actor = .ok (some q') := by
  obtain ⟨bs, hbs, hg⟩ := Tree.mapM_leaves_of_prune f h
  have hmem : some q' ∈ bs := by
    have hleaves : g.leaves = bs.filterMap id := by
      simpa [Tree.leavesOf] using hg
    rw [hleaves] at hq
    simpa using hq
  exact exists_mem_of_forall₂ (forall₂_of_mapM hbs) hmem

end RowFilter
