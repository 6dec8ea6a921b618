import RowFilter.Calendar.Zone.Database
import RowFilter.Proofs.Form
import RowFilter.Proofs.Shape
/-!
# What the text of a filter depends on

Values are bound, not written: two filters that differ in nothing but their values have one
text, up to the lengths of the lists that SQLite writes out and the truth of what a boolean
column is compared with. The proof blanks the values out, and shows that what is left is the
same in both.

Results:
* `text_blank`, `length_blank`: a template without its values has the same text.
* `blank_template`: a predicate without its values has the same template, values aside.
* `blank_predicate`: a requirement's predicate without its values is decided by the form of the
  criterion, and in SQLite by the length of its list.
* `text_eq_of_alike`: two filters with alike operands have one text and equally many parameters.
-/
namespace RowFilter

open Sql

namespace Sql

/-! ## Templates without values -/

namespace Piece

/-- The piece with another value in the place of its own. -/
def blank : Piece → Piece
  | .value _ => .value (.bool false)
  | p => p

end Piece

namespace Template

def blank (t : Template) : Template := t.map Piece.blank

theorem blank_cons (p : Piece) (t : Template) : blank (p :: t) = p.blank :: blank t := rfl

theorem blank_append (s t : Template) : blank (s ++ t) = blank s ++ blank t :=
  List.map_append

theorem pieceTexts_blank (d : Dialect) (k : Nat) (t : Template) :
    pieceTexts d k (blank t) = pieceTexts d k t := by
  induction t generalizing k with
  | nil => rfl
  | cons p t ih =>
    cases p with
    | sql s => exact congrArg (s :: ·) (ih k)
    | value v => exact congrArg (d.placeholder (k + 1) :: ·) (ih (k + 1))
    | again => exact congrArg (d.placeholder k :: ·) (ih k)

/-- A template has the same text whatever its values are. -/
theorem text_blank (d : Dialect) (k : Nat) (t : Template) : text d k (blank t) = text d k t := by
  rw [text, text, pieceTexts_blank]

theorem length_blank (t : Template) : (values (blank t)).length = (values t).length := by
  induction t with
  | nil => rfl
  | cons p t ih =>
    cases p with
    | sql s => exact ih
    | value v => exact congrArg (· + 1) ih
    | again => exact ih

theorem blank_join (separator : String) (ts : List Template) :
    blank (join separator ts) = join separator (ts.map blank) := by
  induction ts with
  | nil => rfl
  | cons t ts ih =>
    cases ts with
    | nil => rfl
    | cons u us =>
      have step : join separator (t :: u :: us) = t ++ .sql separator :: join separator (u :: us) := rfl
      rw [step, blank_append]
      exact congrArg (blank t ++ .sql separator :: ·) ih

/-- A list without its values is decided by its length. -/
theorem blank_list (vs : List Value) :
    blank (list vs) = join ", " (List.replicate vs.length [.value (.bool false)]) := by
  rw [list, blank_join, List.map_map, ← List.map_const']
  rfl

end Template

/-! ## Predicates without values -/

/-- The test of a path with another value of the same type. -/
def PathTest.blank (t : PathTest) : PathTest :=
  { t with value := match t.value with | .float _ => .float ⟨0⟩ | .text _ => .text "" }

namespace Predicate

/-- The predicate with other values in the places of its own, and with other texts in lists as
long as its own. -/
def blank : Predicate → Predicate
  | isTrue t => isTrue t
  | compare c t _ => compare c t (.bool false)
  | between t _ _ => between t (.bool false) (.bool false)
  | like t _ => like t ""
  | inList t vs => inList t (vs.map fun _ => "")
  | outsideList t vs => outsideList t (vs.map fun _ => "")
  | equalsAny t _ => equalsAny t []
  | isNull t => isNull t
  | isNotNull t => isNotNull t
  | isBlank t => isBlank t
  | isNotBlank t => isNotBlank t
  | hasNoElements t => hasNoElements t
  | hasElements t => hasElements t
  | elementIsTrue => elementIsTrue
  | notTrue p => notTrue p.blank
  | someElement l array p => someElement l array p.blank
  | noElement l array p => noElement l array p.blank
  | pathIsTrue t => pathIsTrue t
  | pathExists t tests => pathExists t (tests.map PathTest.blank)
  | hasMember t _ => hasMember t ""
  | hasAnyMember t _ => hasAnyMember t []
  | hasAllMembers t _ => hasAllMembers t []
  | sameMembers t _ => sameMembers t []
  | countsAll member array vs => countsAll member array (vs.map fun _ => "")
  | both p q => both p.blank q.blank

theorem blank_complement (p : Predicate) : p.complement.blank = p.blank.complement := by
  cases p <;> rfl

theorem blank_complement_congr {p q : Predicate} (h : p.blank = q.blank) :
    p.complement.blank = q.complement.blank := by
  rw [blank_complement, blank_complement, h]

theorem blank_texts (vs : List String) :
    (Template.list ((vs.map fun _ => "").map .text)).blank = (Template.list (vs.map .text)).blank := by
  rw [Template.blank_list, Template.blank_list]
  simp

theorem pathText_blank (t : PathTest) : t.blank.pathText = t.pathText := rfl

theorem blank_argument (t : PathTest) : Template.blank t.blank.argument = Template.blank t.argument := by
  obtain ⟨c, name, v⟩ := t
  cases v <;> rfl

theorem blank_arguments (tests : List PathTest) :
    (Template.join ", " ((tests.map PathTest.blank).map PathTest.argument)).blank
      = (Template.join ", " (tests.map PathTest.argument)).blank := by
  rw [Template.blank_join, Template.blank_join, List.map_map, List.map_map, List.map_map]
  exact congrArg _ (List.map_congr_left fun t _ => blank_argument t)

theorem pathTexts_blank (tests : List PathTest) :
    (tests.map PathTest.blank).map PathTest.pathText = tests.map PathTest.pathText := by
  rw [List.map_map]
  exact List.map_congr_left fun t _ => pathText_blank t

/-- A predicate without its values has the same template, values aside. -/
theorem blank_template (d : Dialect) (p : Predicate) :
    (p.blank.template d).blank = (p.template d).blank := by
  induction p with
  | inList t vs =>
    simp only [blank, template, Template.blank_cons, Template.blank_append, blank_texts]
  | outsideList t vs =>
    simp only [blank, template, Template.blank_cons, Template.blank_append, blank_texts]
  | countsAll member array vs =>
    simp only [blank, template, Template.blank_cons, Template.blank_append, blank_texts]
    rfl
  | pathExists t tests =>
    simp only [blank, template, Template.blank_cons, Template.blank_append, pathTexts_blank,
      blank_arguments]
  | notTrue p ih =>
    simp only [blank, template, Template.blank_cons, Template.blank_append, ih]
  | someElement l array p ih =>
    simp only [blank, template, Template.blank_cons, Template.blank_append, ih]
  | noElement l array p ih =>
    simp only [blank, template, Template.blank_cons, Template.blank_append, ih]
  | both p q ihp ihq =>
    simp only [blank, template, Template.parens, Template.blank_cons, Template.blank_append, ihp, ihq]
  | _ => rfl

end Predicate

end Sql

/-! ## Criteria of one form -/

/-- The number of texts that SQLite writes placeholders for. -/
def ValueTest.width : ValueTest → Nat
  | oneOf ss => ss.length
  | _ => 0

/-- The number of texts that SQLite writes placeholders for: a list that must be met as a whole
is written with each text once. -/
def Criterion.width {n : Cardinality} : Criterion n → Nat
  | passes t | fails t => t.width
  | hasAll ss | hasExactly ss => (Json.distinct ss).length
  | isEmpty | isNotEmpty => 0

namespace Sql

theorem blank_texts_of_length {vs ws : List String} (h : vs.length = ws.length) :
    (vs.map fun _ => "") = ws.map fun _ => "" := by
  rw [List.map_const', List.map_const', h]

variable (kind : CellKind) (t : Term)

theorem Postgres.blank_cellTest {x y : ValueTest} (h : x.form = y.form) :
    (Postgres.cellTest kind t x).blank = (Postgres.cellTest kind t y).blank := by
  cases x <;> cases y <;> cases h <;> simp only [Postgres.cellTest, Predicate.blank]

theorem Postgres.blank_listTest {x y : ValueTest} (h : x.form = y.form) :
    (Postgres.listTest kind t x).blank = (Postgres.listTest kind t y).blank := by
  cases x <;> cases y <;> cases h <;> simp only [Postgres.listTest, Postgres.instantTest,
    Predicate.blank, List.map_cons, List.map_nil, PathTest.blank]

/-- In PostgreSQL the form of a criterion decides the predicate but for its values. -/
theorem Postgres.blank_predicate {n : Cardinality} {p q : Criterion n} (h : p.form = q.form) :
    (Postgres.predicate kind t p).blank = (Postgres.predicate kind t q).blank := by
  cases p <;> cases q <;> first | injection h with h | cases h
  case passes.passes x y =>
    cases n with
    | single => exact Postgres.blank_cellTest kind t h
    | multi => exact Postgres.blank_listTest kind t h
  case fails.fails x y =>
    cases n with
    | single => exact Predicate.blank_complement_congr (Postgres.blank_cellTest kind t h)
    | multi => exact Predicate.blank_complement_congr (Postgres.blank_listTest kind t h)
  all_goals rfl

theorem Sqlite.blank_valueTest {x y : ValueTest} (h : x.form = y.form) (hw : x.width = y.width) :
    (Sqlite.valueTest kind t x).blank = (Sqlite.valueTest kind t y).blank := by
  cases x <;> cases y <;> cases h <;> simp only [Sqlite.valueTest, Predicate.blank]
  next vs ws => rw [blank_texts_of_length hw]

theorem Sqlite.blank_listTest {x y : ValueTest} (h : x.form = y.form) (hw : x.width = y.width) :
    (Sqlite.listTest kind t x).blank = (Sqlite.listTest kind t y).blank := by
  have hv := Sqlite.blank_valueTest kind .element h hw
  cases x <;> cases y <;> cases h <;> simp only [Sqlite.listTest, Predicate.blank, hv]

/-- In SQLite it does so together with the length of the list that is written out. -/
theorem Sqlite.blank_predicate {n : Cardinality} {p q : Criterion n} (h : p.form = q.form)
    (hw : p.width = q.width) :
    (Sqlite.predicate kind t p).blank = (Sqlite.predicate kind t q).blank := by
  cases p <;> cases q <;> first | injection h with h | cases h
  case passes.passes x y =>
    cases n with
    | single => exact Sqlite.blank_valueTest kind t h hw
    | multi => exact Sqlite.blank_listTest kind t h hw
  case fails.fails x y =>
    cases n with
    | single => exact Predicate.blank_complement_congr (Sqlite.blank_valueTest kind t h hw)
    | multi => exact Predicate.blank_complement_congr (Sqlite.blank_listTest kind t h hw)
  case isEmpty.isEmpty => rfl
  case isNotEmpty.isNotEmpty => rfl
  case hasAll.hasAll vs ws =>
    simp only [Sqlite.predicate, Predicate.blank, blank_texts_of_length hw]
  case hasExactly.hasExactly vs ws =>
    simp only [Sqlite.predicate, Sqlite.sameElements, Predicate.blank, blank_texts_of_length hw]

end Sql

/-- Requirements of one column are written alike if their criteria have one form and, in SQLite,
lists of one length. -/
theorem Requirement.blank_template {d : Dialect} {table : Option String} {r s : Requirement}
    (hc : r.column = s.column) (hf : r.criterion.form = s.criterion.form)
    (hw : d = .sqlite → r.criterion.width = s.criterion.width) :
    ((r.predicate d table).template d).blank = ((s.predicate d table).template d).blank := by
  obtain ⟨column, p⟩ := r
  obtain ⟨_, q⟩ := s
  cases hc
  have h : (Requirement.predicate d table ⟨column, p⟩).blank
      = (Requirement.predicate d table ⟨column, q⟩).blank := by
    cases d with
    | postgres => exact Postgres.blank_predicate _ _ hf
    | sqlite => exact Sqlite.blank_predicate _ _ hf (hw rfl)
  rw [← Predicate.blank_template, h, Predicate.blank_template]

/-! ## Plans -/

namespace Plan

mutual

/-- Templates of conditions, joined as a plan joins its predicates. -/
def assemble : Tree Template → Template
  | .leaf t => t
  | .group c ts => Template.parens (Template.join c.sql (assembleAll ts))

def assembleAll : List (Tree Template) → List Template
  | [] => []
  | t :: ts => assemble t :: assembleAll ts

end

mutual

theorem blank_assemble (d : Dialect) (t : Plan) :
    (template d t).blank = assemble (t.map fun p => (p.template d).blank) := by
  cases t with
  | leaf p => rfl
  | group c ts =>
    rw [template, Tree.map, assemble, ← blank_assembleAll d ts, ← Template.blank_join]
    exact congrArg (.sql "(" :: ·) (Template.blank_append _ _)

theorem blank_assembleAll (d : Dialect) (ts : List Plan) :
    (templates d ts).map Template.blank
      = assembleAll (Tree.mapOf (fun p => (p.template d).blank) ts) := by
  cases ts with
  | nil => rfl
  | cons t ts =>
    rw [templates, List.map_cons, blank_assemble d t, blank_assembleAll d ts]
    rfl

end

/-- Plans of one shape whose predicates are written alike have one text and equally many
values. -/
theorem text_congr {d : Dialect} {t u : Plan} (hs : t.shape = u.shape)
    (hl : (t.leaves.map fun p => (p.template d).blank) = u.leaves.map fun p => (p.template d).blank)
    (k : Nat) : (template d t).text d k = (template d u).text d k
      ∧ (template d t).values.length = (template d u).values.length := by
  have h : (template d t).blank = (template d u).blank := by
    rw [blank_assemble, blank_assemble, Tree.map_congr_leaves t u hs hl]
  refine ⟨?_, ?_⟩
  · rw [← Template.text_blank, h, Template.text_blank]
  · rw [← Template.length_blank, h, Template.length_blank]

end Plan

/-! ## Conditions with alike operands -/

/-- The number of elements of a list. -/
def Json.listLength : Json → Nat
  | .arr items => items.length
  | _ => 0

/-- The number of different texts of a list of texts. -/
def Json.textCount (v : Json) : Nat :=
  match v.textListOperand with
  | .ok ss => (distinct ss).length
  | .error _ => 0

namespace Condition

/-- A condition without its value. -/
def skeleton (q : Condition) : String × String × Bool := (q.columnId, q.operator, q.isSymbol)

/-- Two values of a condition on a column that give it one text: on a boolean column they are
both true or both false, and where SQLite writes out a list the lists are of one length, or for
a list that must be met as a whole have equally many different texts. -/
def Alike (d : Dialect) (column : Column) (op : Operator) (v w : Json) : Prop :=
  (column.kind = .boolean → op = .equals ∨ op = .notEquals → v.truthy = w.truthy)
    ∧ (d = .sqlite → op = .anyOf ∨ op = .noneOf → v.listLength = w.listLength)
    ∧ (d = .sqlite → op = .allOf ∨ op = .exactly → v.textCount = w.textCount)

/-- Conditions that have alike values, as the first of them is meant. -/
def AlikeIn (d : Dialect) (schema : Schema) (p q : Condition) : Prop :=
  ∀ column op, schema p.columnId = some column → p.operator? column.kind = some op →
    Alike d column op p.value q.value

theorem AlikeIn.refl (d : Dialect) (schema : Schema) (p : Condition) : p.AlikeIn d schema p :=
  fun _ _ _ _ => ⟨fun _ _ => rfl, fun _ _ => rfl, fun _ _ => rfl⟩

end Condition

/-- The width of the criterion of an operator and a value. -/
def Operator.width (op : Operator) (v : Json) : Nat :=
  match op with
  | .anyOf | .noneOf => v.listLength
  | .allOf | .exactly => v.textCount
  | _ => 0

theorem Operator.width_of_not_takesList {op : Operator} (h : op.takesList = false) (v : Json) :
    op.width v = 0 := by
  cases op <;> first | rfl | cases h

theorem Json.length_of_textListOperand {v : Json} {ss : List String}
    (h : v.textListOperand = .ok ss) : ss.length = v.listLength := by
  cases v with
  | arr items =>
    obtain ⟨us, hus, h⟩ := ok_of_bind h
    cases us with
    | nil => cases h
    | cons u us =>
      cases h
      exact (forall₂_of_mapM hus).length_eq.symm
  | _ => cases h

theorem Json.textCount_of_textListOperand {v : Json} {ss : List String}
    (h : v.textListOperand = .ok ss) : (distinct ss).length = v.textCount := by
  rw [textCount, h]

/-- How many texts SQLite writes out is decided by the operator and the value. -/
theorem Criterion.ReadFrom.width {n : Cardinality} {kind : CellKind} {op : Operator} {v : Json}
    {q : Criterion n} (h : q.ReadFrom kind op v) : q.width = op.width v := by
  have hop := h.listOperator?
  cases hl : op.takesList with
  | false =>
    rw [op.width_of_not_takesList hl]
    rw [hl] at hop
    cases q with
    | passes t => cases t <;> first | rfl | cases hop
    | fails t => cases t <;> first | rfl | cases hop
    | isEmpty | isNotEmpty => rfl
    | hasAll ss | hasExactly ss => cases hop
  | true =>
    rw [hl] at hop
    cases q with
    | passes t =>
      cases t with
      | oneOf ss => cases hop; exact Json.length_of_textListOperand (h.texts ss rfl)
      | _ => cases hop
    | fails t =>
      cases t with
      | oneOf ss => cases hop; exact Json.length_of_textListOperand (h.texts ss rfl)
      | _ => cases hop
    | isEmpty | isNotEmpty => cases hop
    | hasAll ss | hasExactly ss =>
      cases hop
      exact Json.textCount_of_textListOperand (h.texts ss rfl)

/-- The truth of the value has a say in the form only where cells hold truth values. -/
theorem Form.ofOperator_congr {kind : CellKind} {op : Operator} {b b' : Bool}
    (h : kind = .boolean → op = .equals ∨ op = .notEquals → b = b') :
    ofOperator kind op b = ofOperator kind op b' := by
  cases kind <;> cases op <;> cases b <;> cases b' <;>
    first | rfl | exact absurd (h rfl (by decide)) (by decide)

/-- Conditions on one column with alike values are written alike. -/
theorem Compiler.blank_of_alike {c : Compiler} {schema : Schema} {now now' : Instant}
    {p q : Condition} {r s : Requirement} (hp : c.requirement schema now p = .ok r)
    (hq : c.requirement schema now' q = .ok s) (hskel : p.skeleton = q.skeleton)
    (halike : p.AlikeIn c.dialect schema q) :
    ((r.predicate c.dialect c.table).template c.dialect).blank
      = ((s.predicate c.dialect c.table).template c.dialect).blank := by
  obtain ⟨op, clock, hcol, hop, hread⟩ := c.requirement_ok schema hp
  obtain ⟨op', clock', hcol', hop', hread'⟩ := c.requirement_ok schema hq
  obtain ⟨hid, hname, hsymbol⟩ : p.columnId = q.columnId ∧ p.operator = q.operator
      ∧ p.isSymbol = q.isSymbol := by
    simpa [Condition.skeleton] using hskel
  have hcolumn : r.column = s.column := by
    rw [hid, hcol'] at hcol
    exact (Option.some.inj hcol).symm
  have hmeant := (mem_legalOperators_of_resolve hop).1
  have hmeant' := (mem_legalOperators_of_resolve hop').1
  have hsame : op = op' := by
    rw [Condition.operator?, hname, hsymbol, hcolumn] at hmeant
    exact Option.some.inj (hmeant.symm.trans hmeant')
  subst hsame
  obtain ⟨htruth, hlists, hcounts⟩ := halike r.column op hcol hmeant
  have hr := Criterion.readFrom_of_read? hread
  have hs := Criterion.readFrom_of_read? hread'
  refine Requirement.blank_template hcolumn ?_ fun hd => ?_
  · rw [hr.form, hs.form, ← hcolumn]
    exact Form.ofOperator_congr htruth
  · rw [hr.width, hs.width]
    cases op with
    | anyOf | noneOf => exact hlists hd (by decide)
    | allOf | exactly => exact hcounts hd (by decide)
    | _ => rfl

/-! ## Filters with alike operands -/

/-- Whether a condition is kept when the filter is prepared. -/
def Condition.isKept (schema : Schema) (placeholder : String) (actor : Option String)
    (q : Condition) : Bool :=
  Tree.isKept (q.prepare schema placeholder actor)

theorem Condition.skeleton_of_prepare {schema : Schema} {placeholder : String}
    {actor : Option String} {q q' : Condition}
    (h : q.prepare schema placeholder actor = .ok (some q')) : q'.skeleton = q.skeleton := by
  obtain ⟨hid, hname, hsymbol⟩ := Condition.prepare_ok h
  rw [skeleton, skeleton, hid, hname, hsymbol]

/-- The skeletons of the leaves that are left are those of the leaves that are kept. -/
theorem Filter.skeletons_of_prepare {schema : Schema} {placeholder : String}
    {actor : Option String} {f g : Filter}
    (h : f.prepare schema placeholder actor = .ok (some g)) :
    g.leaves.map Condition.skeleton = ((f.leaves.map Condition.skeleton).zip
      (f.leaves.map (Condition.isKept schema placeholder actor))).filterMap
        fun x => if x.2 then some x.1 else none := by
  have kept (qs : List Condition) (bs : List (Option Condition))
      (hb : List.Forall₂ (fun q b => q.prepare schema placeholder actor = .ok b) qs bs) :
      (bs.filterMap id).map Condition.skeleton = ((qs.map Condition.skeleton).zip
        (qs.map (Condition.isKept schema placeholder actor))).filterMap
          fun x => if x.2 then some x.1 else none := by
    induction hb with
    | nil => rfl
    | @cons q b qs bs hqb _ ih =>
      rw [List.map_cons, List.map_cons, List.zip_cons_cons, List.filterMap_cons,
        List.filterMap_cons, Condition.isKept, hqb]
      cases b with
      | none => exact ih
      | some q' => exact List.cons_eq_cons.mpr ⟨Condition.skeleton_of_prepare hqb, ih⟩
  obtain ⟨bs, hbs, hg⟩ := Tree.mapM_leaves_of_prune f h
  have hleaves : g.leaves = bs.filterMap id := by simpa [Tree.leavesOf] using hg
  rw [hleaves]
  exact kept _ _ (forall₂_of_mapM hbs)

/-- The filters have one shape, and conditions in the same places name one column, one operator
and the same kind of name for it. -/
def Filter.SameSkeleton (f f' : Filter) : Prop :=
  f.map Condition.skeleton = f'.map Condition.skeleton

namespace Filter.SameSkeleton

variable {f f' : Filter}

theorem shape (h : f.SameSkeleton f') : Tree.shape f = Tree.shape f' := by
  simpa using congrArg Tree.shape h

theorem leaves (h : f.SameSkeleton f') :
    f.leaves.map Condition.skeleton = f'.leaves.map Condition.skeleton := by
  simpa using congrArg Tree.leaves h

end Filter.SameSkeleton

/-- Conditions in the same places are written alike, if they have the same skeletons and alike
operands. -/
theorem Compiler.map_blank_of_alike {c : Compiler} {schema : Schema} {now now' : Instant}
    {ps qs : List Condition} {rs ss : List Requirement}
    (hp : List.Forall₂ (fun p r => c.requirement schema now p = .ok r) ps rs)
    (hq : List.Forall₂ (fun q s => c.requirement schema now' q = .ok s) qs ss)
    (hskel : ps.map Condition.skeleton = qs.map Condition.skeleton)
    (halike : List.Forall₂ (Condition.AlikeIn c.dialect schema) ps qs) :
    (rs.map fun r => ((r.predicate c.dialect c.table).template c.dialect).blank)
      = ss.map fun s => ((s.predicate c.dialect c.table).template c.dialect).blank := by
  induction halike generalizing rs ss with
  | nil => cases hp; cases hq; rfl
  | cons hpq _ ih =>
    cases hp with
    | cons hpr hp =>
      cases hq with
      | cons hqs hq =>
        obtain ⟨hhead, htail⟩ := List.cons_eq_cons.mp hskel
        rw [List.map_cons, List.map_cons, Compiler.blank_of_alike hpr hqs hhead hpq,
          ih hp hq htail]

/-- Two runs on filters that differ in nothing but their values have one text and bind equally
many parameters, whatever the values, the actors and the instants are, if corresponding
conditions that are left have alike operands once the actors are named in them. -/
theorem text_eq_of_alike (c : Compiler) (schema : Schema) (k : Nat) (ctx ctx' : Context)
    (f f' : Filter) {g g' : Filter} {out out' : CompiledPredicate}
    (h : c.predicate schema ctx k f = .ok (some out))
    (h' : c.predicate schema ctx' k f' = .ok (some out'))
    (hskel : f.SameSkeleton f')
    (hkept : f.leaves.map (Condition.isKept schema c.actorPlaceholder ctx.actor)
      = f'.leaves.map (Condition.isKept schema c.actorPlaceholder ctx'.actor))
    (hg : f.prepare schema c.actorPlaceholder ctx.actor = .ok (some g))
    (hg' : f'.prepare schema c.actorPlaceholder ctx'.actor = .ok (some g'))
    (halike : List.Forall₂ (Condition.AlikeIn c.dialect schema) g.leaves g'.leaves) :
    out.sql = out'.sql ∧ out.params.values.length = out'.params.values.length := by
  obtain ⟨rs, hrs, rfl⟩ := c.predicate_ok schema h
  obtain ⟨rs', hrs', rfl⟩ := c.predicate_ok schema h'
  obtain ⟨_, hg₁, htr⟩ := c.requirements_ok schema hrs
  obtain ⟨_, hg₁', htr'⟩ := c.requirements_ok schema hrs'
  cases hg.symm.trans hg₁
  cases hg'.symm.trans hg₁'
  have hshape : Tree.shape (c.planOf rs) = Tree.shape (c.planOf rs') := by
    rw [Compiler.planOf, Compiler.planOf, Tree.shape_map, Tree.shape_map,
      Tree.shape_of_traverse g htr, Tree.shape_of_traverse g' htr']
    exact Tree.shape_of_prune hskel.shape hkept hg hg'
  have hskeletons : g.leaves.map Condition.skeleton = g'.leaves.map Condition.skeleton := by
    rw [Filter.skeletons_of_prepare hg, Filter.skeletons_of_prepare hg', hskel.leaves, hkept]
  have hleaves : ((c.planOf rs).leaves.map fun p => (p.template c.dialect).blank)
      = (c.planOf rs').leaves.map fun p => (p.template c.dialect).blank := by
    rw [Compiler.planOf, Compiler.planOf, Tree.leaves_map, Tree.leaves_map, List.map_map,
      List.map_map]
    exact Compiler.map_blank_of_alike (forall₂_of_mapM (Tree.mapM_leaves_of_traverse g htr))
      (forall₂_of_mapM (Tree.mapM_leaves_of_traverse g' htr')) hskeletons halike
  exact Plan.text_congr hshape hleaves k

/-- People in a list, who may be named by a placeholder. -/
def people : Schema :=
  Schema.ofList [{ id := "people", dbName := "people", semanticType := .text,
                   isMultiValued := true, options := { actorReference := true } }]

/-- Rows of all of these people. -/
def withAll (names : List String) : Filter :=
  .leaf { columnId := "people", operator := "allOf", value := .arr (names.map .str) }

theorem text_eq_of_alike_withAll :
    ∃ out out', (Compiler.mk .sqlite .bundled .utc "me" none).predicate people
        ⟨some "ann", ⟨0, 0⟩⟩ 0 (withAll ["me", "bob"]) = .ok (some out)
      ∧ (Compiler.mk .sqlite .bundled .utc "me" none).predicate people
        ⟨some "eve", ⟨0, 0⟩⟩ 0 (withAll ["x') OR ('1'='1", "me"]) = .ok (some out')
      ∧ out.sql = out'.sql := by
  refine ⟨_, _, rfl, rfl, (text_eq_of_alike (.mk .sqlite .bundled .utc "me" none) people 0
    ⟨some "ann", ⟨0, 0⟩⟩ ⟨some "eve", ⟨0, 0⟩⟩ (withAll ["me", "bob"])
    (withAll ["x') OR ('1'='1", "me"]) rfl rfl rfl rfl rfl rfl ?_).1⟩
  refine .cons ?_ .nil
  intro column op hcolumn hop
  cases hcolumn
  have hall : op = .allOf := (Option.some.inj hop).symm
  subst hall
  exact ⟨nofun, nofun, fun _ _ => rfl⟩

/-- The operands that count are those with the actor in them: one filter asked by two people has
two texts if for one of them two names in it are the same. -/
theorem not_text_eq_of_alike_before_actor : ¬ ∀ (c : Compiler) (schema : Schema) (k : Nat)
    (ctx ctx' : Context) (f f' : Filter) (out out' : CompiledPredicate),
    c.predicate schema ctx k f = .ok (some out) → c.predicate schema ctx' k f' = .ok (some out') →
    f.SameSkeleton f' →
    f.leaves.map (Condition.isKept schema c.actorPlaceholder ctx.actor)
      = f'.leaves.map (Condition.isKept schema c.actorPlaceholder ctx'.actor) →
    List.Forall₂ (Condition.AlikeIn c.dialect schema) f.leaves f'.leaves →
    out.sql = out'.sql := by
  intro h
  have hsql := h (.mk .sqlite .bundled .utc "me" none) people 0
    ⟨some "ann", ⟨0, 0⟩⟩ ⟨some "bob", ⟨0, 0⟩⟩ (withAll ["me", "bob"]) (withAll ["me", "bob"]) _ _ rfl rfl rfl rfl
    (List.forall₂_same.mpr fun q _ => .refl _ _ q)
  exact absurd hsql (by decide)

end RowFilter
