import RowFilter.Calendar.Zone.Database
import RowFilter.Proofs.Parameters
/-!
# Building queries step by step

A query is built by binding values, pushing predicates and compiling filters, in any order. A
filter that fails, checks nothing or is compiled for the other dialect leaves the query as it was.

Results:
* `run_eq`: a query holds what its steps contributed, in order.
* `run_idle`: a step that contributes nothing may be left out.
* `queryRun`: both for a query from its beginning, and the placeholders that were handed out are
  those of their values in the finished query.
-/
namespace RowFilter

open Sql

/-! ## Steps -/

inductive QueryStep
  | bind (v : Value)
  | push (sql : String)
  | compile (c : Compiler) (schema : Schema) (ctx : Context) (f : Filter)

/-- What a step answers. -/
inductive Reply
  | placeholder (s : String)
  | done
  | failed (e : FilterError)

/-- What a step appends to a query. -/
structure Contribution where
  predicates : List String
  params : List Value

namespace QueryStep

/-- Takes a step. A filter that fails leaves the query as it was. -/
def apply (q : Query) : QueryStep → Query × Reply
  | bind v => ((q.bind v).2, .placeholder (q.bind v).1)
  | push sql => (q.pushPredicate sql, .done)
  | compile c schema ctx f =>
    match c.addTo q schema ctx f with
    | .ok q' => (q', .done)
    | .error e => (q, .failed e)

/-- What a step contributes to a query with `k` parameters. -/
def contribution (d : Dialect) (k : Nat) : QueryStep → Contribution
  | bind v => ⟨[], [v]⟩
  | push sql => ⟨[sql], []⟩
  | compile c schema ctx f =>
    if d ≠ c.dialect then ⟨[], []⟩
    else
      match c.predicate schema ctx k f with
      | .ok (some out) => ⟨[out.sql], out.params.values⟩
      | .ok none => ⟨[], []⟩
      | .error _ => ⟨[], []⟩

/-- Whether a step compiles a filter for the other dialect, one that fails or one that checks
nothing. -/
def IsIdle (q : Query) : QueryStep → Prop
  | compile c schema ctx f =>
    c.dialect ≠ q.dialect ∨ (∃ e, c.predicate schema ctx q.params.length f = .error e)
      ∨ c.predicate schema ctx q.params.length f = .ok none
  | _ => False

end QueryStep

namespace Sql.Query

/-- The query with a contribution appended. -/
def extend (q : Query) (c : Contribution) : Query :=
  { q with predicates := q.predicates ++ c.predicates, params := q.params ++ c.params }

/-- A query after several steps, and what they answered. -/
def run (q : Query) : List QueryStep → Query × List Reply
  | [] => (q, [])
  | s :: ss => ((run (s.apply q).1 ss).1, (s.apply q).2 :: (run (s.apply q).1 ss).2)

theorem run_append (q : Query) (ss ts : List QueryStep) :
    q.run (ss ++ ts) = (((q.run ss).1.run ts).1, (q.run ss).2 ++ ((q.run ss).1.run ts).2) := by
  induction ss generalizing q with
  | nil => rfl
  | cons s ss ih =>
    rw [List.cons_append, run, run, ih]
    rfl

end Sql.Query

/-- What several steps contribute, one after the other. -/
def contributions (d : Dialect) : Nat → List QueryStep → List Contribution
  | _, [] => []
  | k, s :: ss =>
    s.contribution d k :: contributions d (k + (s.contribution d k).params.length) ss

/-- Contributions one after the other. -/
def Contribution.concat (cs : List Contribution) : Contribution :=
  ⟨cs.flatMap (·.predicates), cs.flatMap (·.params)⟩

namespace QueryStep

theorem extend_nothing (q : Query) : q.extend ⟨[], []⟩ = q := by simp [Query.extend]

/-- A step appends its contribution and does nothing else to the query. -/
theorem apply_eq (q : Query) (s : QueryStep) :
    (s.apply q).1 = q.extend (s.contribution q.dialect q.params.length) := by
  cases s with
  | bind v => simp [apply, contribution, Query.extend, Query.bind]
  | push sql => simp [apply, contribution, Query.extend, Query.pushPredicate]
  | compile c schema ctx f =>
    unfold apply contribution Compiler.addTo
    by_cases hd : q.dialect = c.dialect
    · simp only [hd, ne_eq, not_true, if_false]
      cases c.predicate schema ctx q.params.length f with
      | error e => exact (extend_nothing q).symm
      | ok out =>
        cases out with
        | none => exact (extend_nothing q).symm
        | some out => rfl
    · simp only [hd, ne_eq, not_false_eq_true, if_true]
      exact (extend_nothing q).symm

theorem dialect_apply (q : Query) (s : QueryStep) : (s.apply q).1.dialect = q.dialect := by
  rw [apply_eq]
  rfl

/-- A filter that fails, checks nothing or is compiled for the other dialect contributes nothing. -/
theorem contribution_of_isIdle {q : Query} {s : QueryStep} (h : s.IsIdle q) :
    s.contribution q.dialect q.params.length = ⟨[], []⟩ := by
  cases s with
  | bind v => cases h
  | push sql => cases h
  | compile c schema ctx f =>
    rcases h with hd | ⟨e, he⟩ | hnone
    · simp [contribution, Ne.symm hd]
    · simp [contribution, he]
    · simp [contribution, hnone]

theorem apply_of_isIdle {q : Query} {s : QueryStep} (h : s.IsIdle q) : (s.apply q).1 = q := by
  rw [apply_eq, contribution_of_isIdle h, extend_nothing]

end QueryStep

namespace Sql.Query

theorem dialect_run (q : Query) (ss : List QueryStep) : (q.run ss).1.dialect = q.dialect := by
  induction ss generalizing q with
  | nil => rfl
  | cons s ss ih =>
    show ((s.apply q).1.run ss).1.dialect = _
    rw [ih, s.dialect_apply]

/-- A query holds what its steps contributed, in order. -/
theorem run_eq (q : Query) (ss : List QueryStep) :
    (q.run ss).1 = q.extend (.concat (contributions q.dialect q.params.length ss)) := by
  induction ss generalizing q with
  | nil => simp [run, extend, contributions, Contribution.concat]
  | cons s ss ih =>
    show ((s.apply q).1.run ss).1 = _
    rw [ih, s.dialect_apply, s.apply_eq]
    simp [extend, contributions, Contribution.concat]

/-- Every step answers once. -/
theorem length_run (q : Query) (ss : List QueryStep) : (q.run ss).2.length = ss.length := by
  induction ss generalizing q with
  | nil => rfl
  | cons s ss ih =>
    rw [run, List.length_cons, List.length_cons, ih]

theorem reply_run (q : Query) (before after : List QueryStep) (s : QueryStep) :
    (q.run (before ++ s :: after)).2[before.length]? = some (s.apply (q.run before).1).2 := by
  rw [run_append, ← q.length_run before]
  show ((q.run before).2 ++ (s.apply (q.run before).1).2 :: _)[_]? = _
  simp

/-- A step that contributes nothing may be left out: the steps after it do and answer the same. -/
theorem run_idle (q : Query) (before after : List QueryStep) {s : QueryStep}
    (h : s.IsIdle (q.run before).1) :
    (q.run (before ++ s :: after)).1 = (q.run (before ++ after)).1
      ∧ ∃ reply rest, (q.run (before ++ s :: after)).2 = (q.run before).2 ++ reply :: rest
        ∧ (q.run (before ++ after)).2 = (q.run before).2 ++ rest := by
  have hs := QueryStep.apply_of_isIdle h
  rw [run_append, run_append, run, hs]
  exact ⟨rfl, _, _, rfl, rfl⟩

/-- The placeholder of a value that is bound has the number of the value in the finished query. -/
theorem parameter?_bind (q : Query) (before after : List QueryStep) (v : Value) :
    let k := (q.run before).1.params.length
    (q.run (before ++ .bind v :: after)).2[before.length]?
        = some (.placeholder (q.dialect.placeholder (k + 1)))
      ∧ parameter? (q.run (before ++ .bind v :: after)).1.params (k + 1) = some v := by
  refine ⟨?_, ?_⟩
  · rw [reply_run, QueryStep.apply, Query.bind, dialect_run]
  · rw [run_append, run, run_eq]
    simp [QueryStep.apply, Query.bind, extend, parameter?]

/-- The placeholders of a filter that is merged have the numbers of its values in the finished
query. -/
theorem bindNumbers?_compile (q : Query) (before after : List QueryStep) {c : Compiler}
    {schema : Schema} {ctx : Context} {f : Filter} {out : CompiledPredicate}
    (hc : c.dialect = .postgres) (hq : q.dialect = .postgres)
    (h : c.predicate schema ctx (q.run before).1.params.length f = .ok (some out)) :
    out.sql ∈ (q.run (before ++ .compile c schema ctx f :: after)).1.predicates
      ∧ ∃ plan ts is, c.plan schema ctx f = .ok (some plan) ∧ tokens? out.sql = some ts
        ∧ (plan.template .postgres).filled? none = some is
        ∧ bindNumbers? (q.run (before ++ .compile c schema ctx f :: after)).1.params ts
          = some is := by
  have hstep : ((QueryStep.compile c schema ctx f).apply (q.run before).1).1
      = (q.run before).1.extend ⟨[out.sql], out.params.values⟩ := by
    have hd : (q.run before).1.dialect = c.dialect := by rw [dialect_run, hq, hc]
    rw [QueryStep.apply_eq]
    simp [QueryStep.contribution, hd, h]
  rw [run_append, run, run_eq, hstep]
  refine ⟨by simp [extend], ?_⟩
  obtain ⟨rs, hrs, rfl⟩ := c.predicate_ok schema h
  obtain ⟨ts, is, hts, his, hread⟩ := Compiler.bindNumbers?_written hc rs (q.run before).1.params
    (Contribution.concat (contributions _ _ after)).params
  refine ⟨c.planOf rs, ts, is, ?_, hts, his, ?_⟩
  · rw [Compiler.plan_eq, hrs]
    rfl
  · rw [← List.append_assoc] at hread
    exact hread

end Sql.Query

/-- Building a query. However its steps are ordered, it holds what they contributed, in order. A
filter that fails, checks nothing or is compiled for the other dialect leaves the query as it was,
and the steps after it do and answer what they would without it. In PostgreSQL every number that
was handed out or stands in a compiled predicate is in the finished query that of the value it was
created for. -/
theorem queryRun (d : Dialect) (select : String) (steps : List QueryStep) :
    let q := Query.new d select
    (q.run steps).1 = q.extend (.concat (contributions d 0 steps))
    ∧ (∀ before s after, steps = before ++ s :: after → s.IsIdle (q.run before).1 →
      (s.apply (q.run before).1).1 = (q.run before).1
        ∧ (q.run steps).1 = (q.run (before ++ after)).1
        ∧ ∃ reply rest, (q.run steps).2 = (q.run before).2 ++ reply :: rest
          ∧ (q.run (before ++ after)).2 = (q.run before).2 ++ rest)
    ∧ (d = .postgres →
      (∀ before v after, steps = before ++ .bind v :: after →
        ∃ j, (q.run steps).2[before.length]? = some (.placeholder ("$" ++ toString j))
          ∧ parameter? (q.run steps).1.build.params j = some v)
      ∧ ∀ before c schema ctx f after out,
        steps = before ++ .compile c schema ctx f :: after → c.dialect = .postgres →
        c.predicate schema ctx (q.run before).1.params.length f = .ok (some out) →
        out.sql ∈ (q.run steps).1.predicates
          ∧ ∃ plan ts is, c.plan schema ctx f = .ok (some plan) ∧ tokens? out.sql = some ts
            ∧ (plan.template .postgres).filled? none = some is
            ∧ bindNumbers? (q.run steps).1.build.params ts = some is) := by
  intro q
  refine ⟨q.run_eq steps, ?_, ?_⟩
  · rintro before s after rfl hidle
    exact ⟨QueryStep.apply_of_isIdle hidle, q.run_idle before after hidle⟩
  · rintro rfl
    refine ⟨?_, ?_⟩
    · rintro before v after rfl
      exact ⟨_, q.parameter?_bind before after v⟩
    · rintro before c schema ctx f after out rfl hc hout
      exact q.bindNumbers?_compile before after hc rfl hout

/-- Lists of labels. -/
def labels : Schema :=
  Schema.ofList
    [{ id := "labels", dbName := "labels", semanticType := .text, isMultiValued := true }]

/-- Rows with one label and no other. -/
def justNew : Filter :=
  .leaf { columnId := "labels", operator := "exactly", value := .arr [.str "new"] }

/-- The query of a tenant. A filter for the other dialect comes between two values that are bound,
and the filter that is merged has a placeholder twice. -/
theorem queryRun_tenant :
    let q := Query.new .postgres "SELECT 1"
    let other :=
      QueryStep.compile (.mk .sqlite .bundled .utc "me" none) labels ⟨none, ⟨0, 0⟩⟩ justNew
    let merged :=
      QueryStep.compile (.mk .postgres .bundled .utc "me" none) labels ⟨none, ⟨0, 0⟩⟩ justNew
    let steps := [.bind (.text "acme"), .push "tenant = $1", other, merged, .bind (.int 10)]
    (q.run steps).1 = (q.run [.bind (.text "acme"), .push "tenant = $1", merged, .bind (.int 10)]).1
      ∧ (∃ j, (q.run steps).2[4]? = some (.placeholder ("$" ++ toString j))
        ∧ parameter? (q.run steps).1.build.params j = some (.int 10))
      ∧ ∃ sql ∈ (q.run steps).1.predicates, ∃ ts is, tokens? sql = some ts
        ∧ bindNumbers? (q.run steps).1.build.params ts = some is := by
  intro q other merged steps
  obtain ⟨-, hidle, hnumbers⟩ := queryRun .postgres "SELECT 1" steps
  obtain ⟨hbind, hcompile⟩ := hnumbers rfl
  obtain ⟨-, hsame, -⟩ :=
    hidle [.bind (.text "acme"), .push "tenant = $1"] other _ rfl (.inl (by decide))
  obtain ⟨hmem, _, ts, is, -, hts, -, hread⟩ := hcompile
    [.bind (.text "acme"), .push "tenant = $1", other] _ _ _ _ [.bind (.int 10)] _ rfl rfl rfl
  refine ⟨hsame, ?_, _, hmem, ts, is, hts, hread⟩
  exact hbind [.bind (.text "acme"), .push "tenant = $1", other, merged] (.int 10) [] rfl

end RowFilter
