import RowFilter.Proofs.Form
/-!
# The dialects agree

A filter is compiled in both dialects or in neither, with the same error, and each condition
binds the same operands in both. Reading a condition has nothing of a dialect in it, so only the
operands are to be compared; `Criterion.operands` lists those of a criterion, and both dialects
are compared with it.

Results:
* `Postgres.operands_predicate`: what PostgreSQL binds, its arrays unpacked.
* `Sqlite.operands_predicate`: what SQLite binds, its counts left out.
* `dialects_agree`: the same filter in both.
-/
namespace RowFilter

open Sql

/-! ## The operands of criteria -/

/-- An instant as a cell with one value or an element of a list is compared with it. -/
def Instant.operand (n : Cardinality) (t : Instant) : Value :=
  match n with
  | .single => .timestamp t
  | .multi => .text t.millisText

def ValueTest.operands (n : Cardinality) : ValueTest → List Value
  | isTrue => []
  | number _ x => [.float x]
  | during start stop => [start.operand n, stop.operand n]
  | before t | onOrAfter t | after t | onOrBefore t => [t.operand n]
  | equals s => [.text s]
  | contains s => [.text (Text.Like.containsPattern s)]
  | oneOf ss => ss.map .text

/-- What a criterion compares with. -/
def Criterion.operands {n : Cardinality} : Criterion n → List Value
  | passes t | fails t => t.operands n
  | isEmpty | isNotEmpty => []
  | hasAll ss => ss.map .text
  | hasExactly ss => (Json.distinct ss).map .text

namespace Sql

/-- The values in an array, or the value itself if it is none. -/
def Value.unpacked : Value → List Value
  | textArray ss => ss.map .text
  | json (.arr items) => items.map fun
    | .str s => .text s
    | j => .json j
  | v => [v]

/-- What a predicate binds in PostgreSQL, arrays unpacked. -/
def Predicate.postgresOperands (p : Predicate) : List Value :=
  (p.template .postgres).values.flatMap Value.unpacked

theorem Predicate.values_complement (d : Dialect) (p : Predicate) :
    (p.complement.template d).values = (p.template d).values := by
  cases p <;> simp [complement, template, Template.values]

variable (kind : CellKind) (t : Term)

theorem Postgres.operands_cellTest (x : ValueTest) :
    (Postgres.cellTest kind t x).postgresOperands = x.operands .single := by
  cases x <;> simp [Postgres.cellTest, Predicate.postgresOperands, Predicate.template,
    Template.values, ValueTest.operands, Value.unpacked, Instant.operand]

theorem Postgres.operands_listTest (x : ValueTest) :
    (Postgres.listTest kind t x).postgresOperands = x.operands .multi := by
  cases x <;> simp [Postgres.listTest, Predicate.postgresOperands, Predicate.template,
    Template.values, Template.values_join, ValueTest.operands, Value.unpacked, Instant.operand,
    PathTest.argument, Postgres.instantTest, PathValue.value]

/-- PostgreSQL binds the operands of a criterion. -/
theorem Postgres.operands_predicate {n : Cardinality} (q : Criterion n) :
    (Postgres.predicate kind t q).postgresOperands = q.operands := by
  have hcomplement (p : Predicate) : p.complement.postgresOperands = p.postgresOperands := by
    rw [Predicate.postgresOperands, Predicate.values_complement]
    rfl
  cases q with
  | passes x =>
    cases n with
    | single => exact Postgres.operands_cellTest kind t x
    | multi => exact Postgres.operands_listTest kind t x
  | fails x =>
    cases n with
    | single => exact (hcomplement _).trans (Postgres.operands_cellTest kind t x)
    | multi => exact (hcomplement _).trans (Postgres.operands_listTest kind t x)
  | isEmpty => cases n <;> cases kind <;> rfl
  | isNotEmpty => cases n <;> cases kind <;> rfl
  | hasAll ss =>
    simp [Postgres.predicate, Predicate.postgresOperands, Predicate.template, Template.values,
      Value.unpacked, Criterion.operands]
  | hasExactly ss =>
    simp [Postgres.predicate, Predicate.postgresOperands, Predicate.template, Template.values,
      Value.unpacked, Criterion.operands]

/-! ## What SQLite binds -/

/-- Whether a value is a number of texts that must be met. No operand is an integer. -/
def Value.isCount : Value → Bool
  | int _ => true
  | _ => false

/-- A timestamp as the text that SQLite stores for it. -/
def Value.asStored (v : Value) : Value :=
  match v with
  | timestamp _ =>
    match v.stored with
    | .text s => .text s
    | _ => v
  | v => v

theorem Sqlite.values_valueTest (x : ValueTest) :
    ((Sqlite.valueTest kind t x).template .sqlite).values = x.operands .single := by
  cases x <;> simp [Sqlite.valueTest, Predicate.template, Template.values, ValueTest.operands,
    Instant.operand]

theorem Sqlite.values_listTest (x : ValueTest) :
    ((Sqlite.listTest kind t x).template .sqlite).values = x.operands .single := by
  have hx := Sqlite.values_valueTest kind .element x
  cases x with
  | isTrue => rfl
  | _ => simpa [Sqlite.listTest, Predicate.template, Template.values] using hx

/-- What SQLite binds for a criterion: the operands of a test, or a list that must be met as a
whole and the number of its texts. -/
def sqliteValues {n : Cardinality} : Criterion n → List Value
  | .passes x | .fails x => x.operands .single
  | .isEmpty | .isNotEmpty => []
  | .hasAll ss => (Json.distinct ss).map .text ++ [.int (Json.distinct ss).length]
  | .hasExactly ss =>
    (Json.distinct ss).map .text ++ .int (Json.distinct ss).length :: (Json.distinct ss).map .text

theorem Sqlite.values_predicate {n : Cardinality} (q : Criterion n) :
    ((Sqlite.predicate kind t q).template .sqlite).values = sqliteValues q := by
  cases q with
  | passes x =>
    cases n with
    | single => exact Sqlite.values_valueTest kind t x
    | multi => exact Sqlite.values_listTest kind t x
  | fails x =>
    cases n with
    | single => exact (Predicate.values_complement _ _).trans (Sqlite.values_valueTest kind t x)
    | multi => exact (Predicate.values_complement _ _).trans (Sqlite.values_listTest kind t x)
  | isEmpty => cases n <;> cases kind <;> rfl
  | isNotEmpty => cases n <;> cases kind <;> rfl
  | hasAll ss => simp [Sqlite.predicate, Predicate.template, Template.values, sqliteValues]
  | hasExactly ss =>
    simp [Sqlite.predicate, Sqlite.sameElements, Predicate.template, Template.values, sqliteValues]

end Sql

/-! ## Operands compared -/

/-- What a predicate binds in SQLite, the count of a list that must be met as a whole left out
and the instants of a list of dates as they are stored. -/
def Sql.Predicate.sqliteOperands (column : Column) (op : Operator) (p : Predicate) : List Value :=
  let values := (p.template .sqlite).values
  let operands := if op = .allOf ∨ op = .exactly then values.filter (!·.isCount) else values
  if column.kind = .datetime ∧ column.isMultiValued then operands.map Value.asStored else operands

/-- The predicates of a condition in both dialects bind the same operands, in lists of texts up
to repetitions. -/
def SameOperands (column : Column) (op : Operator) (p p' : Predicate) : Prop :=
  if op.takesList then
    ∃ ss ss', p.postgresOperands = ss.map .text ∧ p'.sqliteOperands column op = ss'.map .text
      ∧ Json.distinct ss = Json.distinct ss'
  else p.postgresOperands = p'.sqliteOperands column op

/-! ## Lists without repetitions -/

namespace Json

theorem mem_distinct {s : String} {ss : List String} : s ∈ distinct ss ↔ s ∈ ss := by
  induction ss with
  | nil => rfl
  | cons t ss ih =>
    by_cases h : s = t
    · simp [distinct, h]
    · simp [distinct, h, ih]

theorem distinct_filter (p : String → Bool) (ss : List String) :
    distinct (ss.filter p) = (distinct ss).filter p := by
  induction ss with
  | nil => rfl
  | cons s ss ih =>
    by_cases hs : p s = true
    · simp only [List.filter_cons_of_pos hs, distinct, ih, List.filter_filter, Bool.and_comm]
    · have hne : (distinct ss).filter p = (distinct ss).filter fun t => p t && decide (t ≠ s) := by
        refine List.filter_congr fun t _ => ?_
        by_cases ht : t = s
        · simp [ht, hs]
        · simp [ht]
      rw [List.filter_cons_of_neg hs, ih, distinct, List.filter_cons_of_neg hs, List.filter_filter, hne]

@[simp] theorem distinct_distinct (ss : List String) : distinct (distinct ss) = distinct ss := by
  induction ss with
  | nil => rfl
  | cons s ss ih => rw [distinct, distinct, distinct_filter, ih, List.filter_filter]; simp

/-- Texts that are there already add nothing. -/
theorem distinct_append_of_subset {ss ts : List String} (h : ∀ t ∈ ts, t ∈ ss) :
    distinct (ss ++ ts) = distinct ss := by
  have happend : distinct (ss ++ ts) = distinct ss ++ (distinct ts).filter (· ∉ ss) := by
    clear h
    induction ss with
    | nil => simp [distinct]
    | cons s ss ih =>
      simp only [List.cons_append, distinct, ih, List.filter_append, List.filter_filter]
      simp [not_or]
  have hnone : (distinct ts).filter (· ∉ ss) = [] := by
    refine List.filter_eq_nil_iff.mpr fun t ht => ?_
    simpa using h t (mem_distinct.mp ht)
  rw [happend, hnone, List.append_nil]

end Json

/-! ## Requirements in both dialects -/

theorem ValueTest.operands_asStored (x : ValueTest) :
    (x.operands .single).map Value.asStored = x.operands .multi := by
  cases x <;> simp [operands, Instant.operand, Value.asStored, Value.stored]

theorem ValueTest.operands_of_not_ofDates {x : ValueTest} (h : x.form.ofDates = false)
    (n : Cardinality) : x.operands .single = x.operands n := by
  cases x <;> first | rfl | cases h

theorem map_asStored_texts (ss : List String) :
    (ss.map Value.text).map Value.asStored = ss.map .text := by
  simp [Value.asStored]

theorem filter_texts (ss : List String) :
    (ss.map Value.text).filter (!·.isCount) = ss.map .text :=
  List.filter_eq_self.mpr fun v hv => by
    obtain ⟨s, -, rfl⟩ := List.mem_map.mp hv
    rfl

theorem sqliteOperands_of_texts {column : Column} {op : Operator} {p : Predicate} {ss : List String}
    (h : (if op = .allOf ∨ op = .exactly then (p.template .sqlite).values.filter (!·.isCount)
      else (p.template .sqlite).values) = ss.map .text) :
    p.sqliteOperands column op = ss.map .text := by
  simp only [Sql.Predicate.sqliteOperands, h]
  split
  · exact map_asStored_texts ss
  · rfl

/-- A test binds its operands in SQLite, but for instants in a list of dates, which it binds as
timestamps. -/
theorem sqliteOperands_of_test (column : Column) {op : Operator} {x : ValueTest} {p : Predicate}
    (h : (p.template .sqlite).values = x.operands .single) (hop : ¬ (op = .allOf ∨ op = .exactly))
    (hdates : x.form.ofDates = true → column.kind = .datetime) :
    p.sqliteOperands column op = x.operands column.cardinality := by
  simp only [Sql.Predicate.sqliteOperands, if_neg hop, h]
  cases hm : column.isMultiValued with
  | false =>
    have hn : column.cardinality = .single := by simp [Column.cardinality, hm]
    rw [if_neg (by simp), hn]
  | true =>
    have hn : column.cardinality = .multi := by simp [Column.cardinality, hm]
    rw [hn]
    split
    · exact x.operands_asStored
    · next hk =>
      refine ValueTest.operands_of_not_ofDates ?_ .multi
      cases hd : x.form.ofDates with
      | false => rfl
      | true => exact absurd ⟨hdates hd, rfl⟩ hk

theorem SameOperands.of_test {column : Column} {op : Operator} {x : ValueTest} {p p' : Predicate}
    (hp : p.postgresOperands = x.operands column.cardinality)
    (hp' : (p'.template .sqlite).values = x.operands .single)
    (hlist : op.takesList = true → ∃ ss, x = .oneOf ss) (hop : ¬ (op = .allOf ∨ op = .exactly))
    (hdates : x.form.ofDates = true → column.kind = .datetime) : SameOperands column op p p' := by
  have heq := sqliteOperands_of_test column hp' hop hdates
  rw [SameOperands]
  split
  · obtain ⟨ss, rfl⟩ := hlist ‹_›
    exact ⟨ss, ss, hp, heq, rfl⟩
  · rw [hp, heq]

/-- The predicates of a criterion in both dialects bind the same operands. -/
theorem sameOperands_of_criterion {column : Column} {n : Cardinality} (hn : column.cardinality = n)
    {q : Criterion n} {op : Operator} {v : Json} (h : q.ReadFrom column.kind op v)
    (hop : op ∈ legalOperators column.kind n) (t : Term) :
    SameOperands column op (Postgres.predicate column.kind t q) (Sqlite.predicate column.kind t q) := by
  have hp := Postgres.operands_predicate column.kind t q
  have hp' := Sqlite.values_predicate column.kind t q
  have hlist := h.listOperator?
  have hdates : q.form.ofDates = true → column.kind = .datetime := fun hd =>
    Form.kind_of_ofDates hop (h.form ▸ hd)
  cases q with
  | passes x | fails x =>
    refine .of_test (hn ▸ hp) hp' ?_ ?_ hdates
    · intro ht
      rw [ht] at hlist
      cases x <;> first | exact ⟨_, rfl⟩ | cases hlist
    · rintro (rfl | rfl) <;> cases x <;> cases hlist
  | isEmpty | isNotEmpty =>
    refine .of_test (x := .isTrue) hp hp' ?_ ?_ nofun
    · intro ht
      rw [ht] at hlist
      cases hlist
    · rintro (rfl | rfl) <;> cases hlist
  | hasAll ss =>
    have hall : op = .allOf := by cases op <;> first | rfl | cases hlist
    subst hall
    refine ⟨ss, Json.distinct ss, hp, sqliteOperands_of_texts ?_, (Json.distinct_distinct ss).symm⟩
    rw [hp', if_pos (.inl rfl), sqliteValues, List.filter_append, filter_texts]
    exact List.append_nil _
  | hasExactly ss =>
    have hexactly : op = .exactly := by cases op <;> first | rfl | cases hlist
    subst hexactly
    have htwice : Json.distinct (Json.distinct ss ++ Json.distinct ss)
        = Json.distinct (Json.distinct ss) := Json.distinct_append_of_subset fun _ hs => hs
    refine ⟨Json.distinct ss, Json.distinct ss ++ Json.distinct ss, hp, sqliteOperands_of_texts ?_,
      htwice.symm⟩
    rw [hp', if_pos (.inr rfl), sqliteValues, List.filter_append,
      List.filter_cons_of_neg (by simp [Value.isCount]), filter_texts, List.map_append]

theorem sameOperands_of_requirement {c : Compiler} {schema : Schema} {now : Instant}
    {q : Condition} {r : Requirement} (h : c.requirement schema now q = .ok r)
    (table : Option String) :
    ∃ column op, schema q.columnId = some column ∧ q.resolve column = .ok op
      ∧ SameOperands column op (r.predicate .postgres table) (r.predicate .sqlite table) := by
  obtain ⟨op, clock, hcol, hop, hread⟩ := c.requirement_ok schema h
  exact ⟨r.column, op, hcol, hop, sameOperands_of_criterion rfl (Criterion.readFrom_of_read? hread)
    (mem_legalOperators_of_resolve hop).2 (.column table r.column.dbName)⟩

/-! ## Filters in both dialects -/

/-- The compiler for a dialect. -/
def Compiler.inDialect (c : Compiler) (d : Dialect) : Compiler := { c with dialect := d }

/-- Reading a filter has nothing of a dialect in it. -/
theorem Compiler.predicate_inDialect (c : Compiler) (d : Dialect) (schema : Schema)
    (ctx : Context) (k : Nat) (f : Filter) : (c.inDialect d).predicate schema ctx k f
      = (c.requirements schema ctx f).map (·.map ((c.inDialect d).written k)) :=
  (c.inDialect d).predicate_eq schema ctx k f

theorem forall₂_sameOperands {c : Compiler} {schema : Schema} {now : Instant}
    {qs : List Condition} {rs : List Requirement}
    (h : List.Forall₂ (fun q r => c.requirement schema now q = .ok r) qs rs) :
    List.Forall₂ (fun q (x : Predicate × Predicate) => ∃ column op,
        schema q.columnId = some column ∧ q.resolve column = .ok op ∧ SameOperands column op x.1 x.2)
      qs ((rs.map (Requirement.predicate .postgres c.table)).zip
        (rs.map (Requirement.predicate .sqlite c.table))) := by
  induction h with
  | nil => exact .nil
  | cons hqr _ ih => exact .cons (sameOperands_of_requirement hqr c.table) ih

/-- The dialects are one filter language. A filter fails in both with the same error, or in both
nothing of it is left, or it is compiled in both; and then its conditions bind, in document
order, the same operands. -/
theorem dialects_agree (c : Compiler) (schema : Schema) (ctx : Context) (k : Nat) (f : Filter) :
    (∃ e, (c.inDialect .postgres).predicate schema ctx k f = .error e
      ∧ (c.inDialect .sqlite).predicate schema ctx k f = .error e)
    ∨ ((c.inDialect .postgres).predicate schema ctx k f = .ok none
      ∧ (c.inDialect .sqlite).predicate schema ctx k f = .ok none)
    ∨ ∃ out out' g ps ps',
      (c.inDialect .postgres).predicate schema ctx k f = .ok (some out)
      ∧ (c.inDialect .sqlite).predicate schema ctx k f = .ok (some out')
      ∧ f.prepare schema c.actorPlaceholder ctx.actor = .ok (some g)
      ∧ g.leaves.mapM ((c.inDialect .postgres).condition schema ctx.now) = .ok ps
      ∧ g.leaves.mapM ((c.inDialect .sqlite).condition schema ctx.now) = .ok ps'
      ∧ out.params.values = (ps.flatMap fun p => (p.template .postgres).values)
      ∧ out'.params.values = (ps'.flatMap fun p => (p.template .sqlite).values)
      ∧ List.Forall₂ (fun q (x : Predicate × Predicate) => ∃ column op,
          schema q.columnId = some column ∧ q.resolve column = .ok op
            ∧ SameOperands column op x.1 x.2) g.leaves (ps.zip ps') := by
  rw [Compiler.predicate_inDialect, Compiler.predicate_inDialect]
  cases hrs : c.requirements schema ctx f with
  | error e => exact .inl ⟨e, rfl, rfl⟩
  | ok rs =>
    cases rs with
    | none => exact .inr (.inl ⟨rfl, rfl⟩)
    | some rs =>
      obtain ⟨g, hg, htr⟩ := c.requirements_ok schema hrs
      have hpg := (Compiler.leaves_of_traverse (c := c.inDialect .postgres) htr).1
      have hlite := (Compiler.leaves_of_traverse (c := c.inDialect .sqlite) htr).1
      have hread := (Compiler.leaves_of_traverse htr).2
      exact .inr (.inr ⟨_, _, g, _, _, rfl, rfl, hg, hpg, hlite,
        (c.inDialect .postgres).values_written k rs, (c.inDialect .sqlite).values_written k rs,
        forall₂_sameOperands hread⟩)

end RowFilter
