import RowFilter.Compiler
/-!
# Accumulation

A predicate put together with the accumulator in hand: every value is pushed where it comes up,
which gives the placeholder to write, and a failure leaves the accumulator as it is then. This is
how predicates come to be in a program with a mutable accumulator. The library gives the text and
the values of a predicate at once instead; the two are the same.

So an operator does nothing to the accumulator but append to it, and nothing at all if it fails.
Of what the accumulator holds, only the number of parameters bound before counts.

Results:
* `writes_write`: pushing the values of a predicate one by one is adding its template.
* `Target.run_eq_apply`: running an operator with the accumulator is applying it in one step.
* `Target.run_appends`: what an operator may do to the accumulator and what it depends on.
* `Call.runAll_filter`: of several calls, those that fail leave no trace.
-/
namespace RowFilter

open Sql

namespace Sql

/-! ## Writing with an accumulator -/

namespace Writing

/-- Binds a value and gives its placeholder. -/
def push (v : Value) : StateM Params String := fun ps => ps.push v

/-- Writes texts one by one, with commas between them. -/
def commaSeparated {α : Type} (write : α → StateM Params String) (as : List α) :
    StateM Params String := do
  return String.intercalate ", " (← as.mapM write)

/-- Binds several values and gives their placeholders with commas between them. -/
def pushList (vs : List Value) : StateM Params String := commaSeparated push vs

/-- Binds the variable of a test and gives it as an argument. -/
def pushArgument (t : PathTest) : StateM Params String := do
  return "'" ++ t.name.text ++ "', " ++ (← push t.value.value) ++ ("::" ++ t.value.cast)

end Writing

open Writing

/-- Writes a predicate down, its values bound in the order in which they come up. -/
def Predicate.write (d : Dialect) : Predicate → StateM Params String
  | isTrue t => return t.text d ++ match d with | .postgres => " = TRUE" | .sqlite => " = 1"
  | compare c t v => return t.text d ++ " " ++ c.sql ++ " " ++ (← push v)
  | between t low high => do
    let low ← push low
    let high ← push high
    return t.text d ++ " BETWEEN " ++ low ++ " AND " ++ high
  | like t pattern => return d.like (t.text d) (← push (.text pattern))
  | inList t vs => return t.text d ++ " IN (" ++ (← pushList (vs.map .text)) ++ ")"
  | outsideList t vs =>
    return t.text d ++ " IS NULL OR " ++ t.text d ++ " NOT IN (" ++ (← pushList (vs.map .text))
      ++ ")"
  | equalsAny t vs => return t.text d ++ " = ANY(" ++ (← push (.textArray vs)) ++ ")"
  | isNull t => return t.text d ++ " IS NULL"
  | isNotNull t => return t.text d ++ " IS NOT NULL"
  | isBlank t => return "(" ++ t.text d ++ " IS NULL OR " ++ t.text d ++ " = '')"
  | isNotBlank t => return t.text d ++ " <> ''"
  | hasNoElements t =>
    return "(" ++ t.text d ++ " IS NULL OR " ++ d.arrayLength (t.text d) ++ " = 0)"
  | hasElements t => return d.arrayLength (t.text d) ++ " > 0"
  | elementIsTrue => return "json_each.type = 'true'"
  | notTrue p => return d.notTrue (← p.write d)
  | someElement l array p =>
    return "EXISTS (SELECT 1 FROM " ++ l.text (array.text d) ++ " WHERE " ++ (← p.write d) ++ ")"
  | noElement l array p =>
    return "NOT EXISTS (SELECT 1 FROM " ++ l.text (array.text d) ++ " WHERE " ++ (← p.write d)
      ++ ")"
  | pathIsTrue t => return "jsonb_path_exists(" ++ t.text d ++ ", '$[*] ? (@ == true)')"
  | pathExists t tests => do
    let arguments ← commaSeparated pushArgument tests
    return "jsonb_path_exists(" ++ t.text d ++ ", '$[*] ? ("
      ++ String.intercalate " && " (tests.map PathTest.pathText) ++ ")', jsonb_build_object("
      ++ arguments ++ "))"
  | hasMember t v =>
    return t.text d ++ " @> jsonb_build_array(" ++ (← push (.text v)) ++ "::text)"
  | hasAnyMember t vs => return t.text d ++ " ?| " ++ (← push (.textArray vs))
  | hasAllMembers t vs => return t.text d ++ " ?& " ++ (← push (.textArray vs))
  | sameMembers t vs => do
    let list ← push (.json (.arr (vs.map Json.str)))
    return "(" ++ t.text d ++ " @> " ++ list ++ "::jsonb AND " ++ t.text d ++ " <@ " ++ list
      ++ "::jsonb)"
  | countsAll member array vs => do
    let list ← pushList (vs.map .text)
    let count ← push (.int vs.length)
    return "(SELECT COUNT(DISTINCT " ++ member.text d ++ ") FROM "
      ++ Listing.each.text (array.text d) ++ " WHERE " ++ member.text d ++ " IN (" ++ list
      ++ ")) = " ++ count
  | both p q => do
    let first ← p.write d
    let second ← q.write d
    return "(" ++ first ++ " AND " ++ second ++ ")"

/-! ## Writing is adding a template -/

/-- Running `m` appends exactly the values of `t` and gives its text. -/
def Writes (m : StateM Params String) (t : Template) : Prop := ∀ ps, (m.run ps).run = ps.add t

namespace Params

theorem add_nil (ps : Params) : ps.add [] = ("", ps) := by
  simp [add, append, Template.text, Template.pieceTexts, Template.values]

theorem add_sql (ps : Params) (s : String) (t : Template) :
    ps.add (.sql s :: t) = (s ++ (ps.add t).1, (ps.add t).2) := by
  simp [add, Template.text, Template.pieceTexts, Template.values]

/-- An empty accumulator that starts after as many parameters as there are by now. -/
def fresh (ps : Params) : Params := .startingAfter ps.dialect (ps.offset + ps.values.length)

/-- The placeholder once more is the one that the push gave. -/
theorem add_value_sql_again (ps : Params) (v : Value) (s : String) (t : Template) :
    ps.add (.value v :: .sql s :: .again :: t)
      = ((ps.push v).1 ++ (s ++ ((ps.push v).1 ++ ((ps.push v).2.add t).1)),
        ((ps.push v).2.add t).2) := by
  simp [add, push, append, bound, Template.text, Template.pieceTexts, Template.values,
    Nat.add_assoc]

end Params

theorem writes_text (s : String) : Writes (pure s) [.sql s] := by
  intro ps
  simp [Params.add_sql, Params.add_nil]

theorem writes_push (v : Value) : Writes (push v) [.value v] := fun _ => rfl

section

variable {m n : StateM Params String} {s t : Template}

/-- What is written after a text. -/
theorem Writes.after (hm : Writes m s) (opening : String) :
    Writes (do return opening ++ (← m)) (.sql opening :: s) := by
  intro ps
  simp [Params.add_sql, hm ps]

/-- What is written between two texts. -/
theorem Writes.enclosed (hm : Writes m s) (opening closing : String) :
    Writes (do return opening ++ (← m) ++ closing) (.sql opening :: (s ++ [.sql closing])) := by
  intro ps
  simp [Params.add_sql, Params.add_append, Params.add_nil, hm ps, String.append_assoc]

/-- What is written after something else. The placeholders of the second come after those of
the first, since the accumulator is handed on. -/
theorem Writes.andThen (hm : Writes m s) (hn : Writes n t) (opening between : String) :
    Writes (do
      let first ← m
      let second ← n
      return opening ++ first ++ between ++ second) (.sql opening :: (s ++ .sql between :: t)) := by
  intro ps
  simp [Params.add_sql, Params.add_append, hm ps, hn _, String.append_assoc]

end

theorem commaSeparated_cons_cons {α : Type} (write : α → StateM Params String) (a b : α)
    (as : List α) : commaSeparated write (a :: b :: as) = do
      return (← write a) ++ ", " ++ (← commaSeparated write (b :: as)) := by
  simp [commaSeparated]

theorem writes_commaSeparated {α : Type} {write : α → StateM Params String} {g : α → Template}
    (h : ∀ a, Writes (write a) (g a)) (as : List α) :
    Writes (commaSeparated write as) (Template.join ", " (as.map g)) := by
  intro ps
  induction as generalizing ps with
  | nil => simp [commaSeparated, Template.join, Params.add_nil]
  | cons a as ih =>
    cases as with
    | nil => simp [commaSeparated, Template.join, h a ps]
    | cons b as =>
      rw [commaSeparated_cons_cons]
      simp [Template.join, Params.add_append, Params.add_sql, h a ps, ih, String.append_assoc]

theorem writes_pushList (vs : List Value) : Writes (pushList vs) (Template.list vs) :=
  writes_commaSeparated writes_push vs

theorem writes_pushArgument (t : PathTest) : Writes (pushArgument t) t.argument :=
  (writes_push t.value.value).enclosed ("'" ++ t.name.text ++ "', ") ("::" ++ t.value.cast)

/-- Writing a predicate is adding its template. One case per form of predicate. -/
theorem writes_write (d : Dialect) (p : Predicate) : Writes (p.write d) (p.template d) := by
  induction p with
  | isTrue | isNull | isNotNull | isBlank | isNotBlank | hasNoElements | hasElements
  | elementIsTrue | pathIsTrue => exact writes_text _
  | compare c t v => exact (writes_push v).after _
  | between t low high => exact (writes_push low).andThen (writes_push high) _ _
  | like t pattern => exact (writes_push _).enclosed _ _
  | inList t vs => exact (writes_pushList _).enclosed _ _
  | outsideList t vs => exact (writes_pushList _).enclosed _ _
  | equalsAny t vs => exact (writes_push _).enclosed _ _
  | notTrue p ih => exact ih.enclosed _ _
  | someElement l array p ih => exact ih.enclosed _ _
  | noElement l array p ih => exact ih.enclosed _ _
  | pathExists t tests => exact (writes_commaSeparated writes_pushArgument tests).enclosed _ _
  | hasMember t v => exact (writes_push _).enclosed _ _
  | hasAnyMember t vs => exact (writes_push _).after _
  | hasAllMembers t vs => exact (writes_push _).after _
  | sameMembers t vs =>
    intro ps
    simp [Predicate.write, Predicate.template, Params.add_sql, Params.add_value_sql_again,
      Params.push, Params.add_nil, writes_push _ ps, String.append_assoc]
  | countsAll member array vs => exact (writes_pushList _).andThen (writes_push _) _ _
  | both p q ihp ihq =>
    intro ps
    simp [Predicate.write, Predicate.template, Template.parens, Params.add_sql, Params.add_append,
      Params.add_nil, ihp ps, ihq _, String.append_assoc]

end Sql

/-! ## Operators with an accumulator -/

namespace Target

/-- Reads an operator and its value and writes their predicate. -/
def accumulate (t : Target) (op : Operator) (v : Json) :
    ExceptT FilterError (StateM Params) String := do
  match t.predicate op v with
  | .error e => throw e
  | .ok p => p.write t.dialect

/-- What is left in the accumulator stays there if the operator fails. -/
def run (t : Target) (op : Operator) (v : Json) (ps : Params) :
    Except FilterError String × Params := ((t.accumulate op v).run.run ps).run

section

variable (t : Target) (op : Operator) (v : Json) (ps : Params)

theorem run_of_error {e : FilterError} (h : t.predicate op v = .error e) :
    t.run op v ps = (.error e, ps) := by
  simp [run, accumulate, h]

theorem run_of_ok {p : Predicate} (h : t.predicate op v = .ok p) :
    t.run op v ps
      = (.ok (ps.add (p.template t.dialect)).1, (ps.add (p.template t.dialect)).2) := by
  simp [run, accumulate, h, writes_write t.dialect p ps]

/-- Running an operator and applying it in one step are the same. -/
theorem run_eq_apply : t.run op v ps =
    match t.apply ps op v with
    | .error e => (.error e, ps)
    | .ok (text, ps') => (.ok text, ps') := by
  cases h : t.predicate op v with
  | error e =>
    rw [t.run_of_error op v ps h, apply, h]
    rfl
  | ok p =>
    rw [t.run_of_ok op v ps h, apply, h]
    rfl

end

/-- An operator that fails leaves the accumulator as it was, and one that does not appends to its
values and does nothing else. What it says and what it appends is the same with an empty
accumulator that starts after as many parameters. -/
theorem run_appends (t : Target) (op : Operator) (v : Json) (ps : Params) :
    (∃ e, t.apply ps op v = .error e ∧ t.run op v ps = (.error e, ps)
      ∧ t.run op v ps.fresh = (.error e, ps.fresh))
    ∨ ∃ text vs, t.apply ps op v = .ok (text, ps.append vs)
      ∧ t.run op v ps = (.ok text, ps.append vs)
      ∧ t.run op v ps.fresh = (.ok text, ps.fresh.append vs) := by
  cases h : t.predicate op v with
  | error e =>
    left
    refine ⟨e, ?_, t.run_of_error op v ps h, t.run_of_error op v ps.fresh h⟩
    rw [apply, h]
    rfl
  | ok p =>
    right
    refine ⟨_, (p.template t.dialect).values, ?_, t.run_of_ok op v ps h, ?_⟩
    · rw [apply, h]
      rfl
    · rw [t.run_of_ok op v ps.fresh h]
      rfl

end Target

/-! ## Several operators one after the other -/

/-- An operator with its value and what it is for. -/
structure Call where
  target : Target
  operator : Operator
  value : Json

namespace Call

def run (c : Call) (ps : Params) : Except FilterError String × Params :=
  c.target.run c.operator c.value ps

/-- Runs calls with one accumulator, going on after those that fail. -/
def runAll : List Call → Params → List (Except FilterError String) × Params
  | [], ps => ([], ps)
  | c :: cs, ps => ((c.run ps).1 :: (runAll cs (c.run ps).2).1, (runAll cs (c.run ps).2).2)

/-- Whether a call fails is not up to the accumulator. -/
def succeeds (c : Call) : Bool := (c.target.predicate c.operator c.value).isOk

theorem isOk_run (c : Call) (ps : Params) : (c.run ps).1.isOk = c.succeeds := by
  cases h : c.target.predicate c.operator c.value with
  | error e => rw [run, c.target.run_of_error _ _ ps h, succeeds, h]; rfl
  | ok p => rw [run, c.target.run_of_ok _ _ ps h, succeeds, h]; rfl

theorem run_of_fails {c : Call} (h : c.succeeds = false) (ps : Params) : (c.run ps).2 = ps := by
  cases hp : c.target.predicate c.operator c.value with
  | error e => rw [run, c.target.run_of_error _ _ ps hp]
  | ok p =>
    rw [succeeds, hp] at h
    cases h

/-- Calls that fail leave no trace: the others say and append what they would without them. -/
theorem runAll_filter (cs : List Call) (ps : Params) :
    runAll (cs.filter succeeds) ps = ((runAll cs ps).1.filter (·.isOk), (runAll cs ps).2) := by
  induction cs generalizing ps with
  | nil => rfl
  | cons c cs ih =>
    cases h : c.succeeds with
    | false => simp [runAll, h, isOk_run, run_of_fails h, ih]
    | true => simp [runAll, h, isOk_run, ih]

end Call

end RowFilter
