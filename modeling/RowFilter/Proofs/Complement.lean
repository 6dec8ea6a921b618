import RowFilter.Proofs.DialectAgreement
import RowFilter.Proofs.Evaluation
/-!
# Operators and their complements

Four operators have a complement: what one of the two asks for, the other excludes. On every row
one of their predicates is true and the other is not, whatever is NULL in it.

Results:
* `opposite_read?`: an operator and its complement read the same operand, and opposite criteria.
* `opposed_ofCriterion`: opposite criteria have predicates of which one is true on each row.
* `complement_partitions`: both for the texts and the parameters of the operators.
-/
namespace RowFilter

open Sql

/-- An operator and its complement. -/
inductive Operator.Complement : Operator → Operator → Prop
  | equals : Complement equals notEquals
  | contains : Complement contains notContains
  | anyOf : Complement anyOf noneOf
  | isEmpty : Complement isEmpty isNotEmpty

/-! ## Criteria -/

namespace Criterion

variable {n : Cardinality}

/-- Criteria of which a cell meets one. -/
inductive Opposite : Criterion n → Criterion n → Prop
  | passes (t : ValueTest) : Opposite (passes t) (fails t)
  | fails (t : ValueTest) : Opposite (fails t) (passes t)
  | isEmpty : Opposite isEmpty isNotEmpty

/-- Readings of which a cell meets one; neither is there if the other is not. -/
inductive OppositeReadings :
    Option (Except FilterError (Criterion n)) → Option (Except FilterError (Criterion n)) → Prop
  | none : OppositeReadings none none
  | error (x y : FilterError) : OppositeReadings (some (.error x)) (some (.error y))
  | ok {q q' : Criterion n} (h : q.Opposite q') : OppositeReadings (some (.ok q)) (some (.ok q'))

/-- An operand that is read for both of two operators. -/
theorem oppositeReadings_operand {α : Type} (s s' : Site) (x : Except ValueFault α)
    {f g : α → Criterion n} (h : ∀ a, (f a).Opposite (g a)) :
    OppositeReadings (some ((s.operand x).map f)) (some ((s'.operand x).map g)) := by
  cases x with
  | error e => exact .error _ _
  | ok a => exact .ok (h a)

variable {op op' : Operator} (h : op.Complement op')

include h

theorem oppositeReadings_boolean (v : Json) :
    OppositeReadings (n := n) ((readBoolean? op v).map .ok) ((readBoolean? op' v).map .ok) := by
  cases h with
  | equals =>
    cases hv : v.truthy with
    | false =>
      simpa [readBoolean?, Operator.canonical, hv] using OppositeReadings.ok (.fails .isTrue)
    | true =>
      simpa [readBoolean?, Operator.canonical, hv] using OppositeReadings.ok (.passes .isTrue)
  | contains => exact .none
  | anyOf => exact .none
  | isEmpty => exact .ok (.fails .isTrue)

variable (id : String) (clock : Clock) (v : Json)

theorem oppositeReadings_number :
    OppositeReadings (n := n) (readNumber? ⟨id, op, clock⟩ v) (readNumber? ⟨id, op', clock⟩ v) := by
  cases h with
  | equals => exact oppositeReadings_operand _ _ _ fun x => .passes (.number .eq x)
  | contains => exact .none
  | anyOf => exact .none
  | isEmpty => exact .ok .isEmpty

theorem oppositeReadings_text :
    OppositeReadings (n := n) (readText? ⟨id, op, clock⟩ v) (readText? ⟨id, op', clock⟩ v) := by
  cases h with
  | equals => exact oppositeReadings_operand _ _ _ fun x => .passes (.equals x)
  | contains => exact oppositeReadings_operand _ _ _ fun x => .passes (.contains x)
  | anyOf => exact oppositeReadings_operand _ _ _ fun xs => .passes (.oneOf xs)
  | isEmpty => exact .ok .isEmpty

theorem oppositeReadings_texts :
    OppositeReadings (readTexts? ⟨id, op, clock⟩ v) (readTexts? ⟨id, op', clock⟩ v) := by
  have ht := oppositeReadings_text (n := .multi) h id clock v
  cases h <;> exact ht

omit h in
/-- Only `within` takes other date filters than those of a day. -/
theorem dateRange_of_decode {f : DateFilter} (hd : DateFilter.decode v = .ok f)
    (hop : op ≠ .within) :
    Site.dateRange ⟨id, op, clock⟩ v =
      if f.mode.isDay then (f.resolve clock.zone clock.now).mapError (.noDateRange id)
      else .error (.invalidDateMode id op f.mode) := by
  rw [Site.dateRange, Site.dateFilter, hd]
  show (if (if op = .within then f.mode.isRolling else f.mode.isDay) = true then Except.ok f
    else .error _) >>= _ = _
  rw [if_neg hop]
  split <;> rfl

omit h in
/-- The range of a day is the same for an operator and its complement. -/
theorem oppositeReadings_range {f g : DateRange → Criterion n} (hfg : ∀ r, (f r).Opposite (g r)) :
    OppositeReadings (some ((Site.dateRange ⟨id, .equals, clock⟩ v).map f))
      (some ((Site.dateRange ⟨id, .notEquals, clock⟩ v).map g)) := by
  cases hd : DateFilter.decode v with
  | error e =>
    rw [Site.dateRange, Site.dateRange, Site.dateFilter, Site.dateFilter, hd]
    exact .error _ _
  | ok filter =>
    rw [dateRange_of_decode id clock v hd (by decide),
      dateRange_of_decode id clock v hd (by decide)]
    split
    · cases filter.resolve clock.zone clock.now with
      | error e => exact .error _ _
      | ok r => exact .ok (hfg r)
    · exact .error _ _

theorem oppositeReadings_datetime :
    OppositeReadings (n := n) (readDatetime? ⟨id, op, clock⟩ v)
      (readDatetime? ⟨id, op', clock⟩ v) := by
  cases h with
  | equals => exact oppositeReadings_range id clock v fun r => .passes (.during _ _)
  | contains => exact .none
  | anyOf => exact .none
  | isEmpty => exact .ok .isEmpty

/-- An operator and its complement read the same operand, and opposite criteria. -/
theorem opposite_read? (kind : CellKind) (n : Cardinality) :
    OppositeReadings (read? kind n ⟨id, op, clock⟩ v) (read? kind n ⟨id, op', clock⟩ v) := by
  cases kind with
  | boolean => exact oppositeReadings_boolean h v
  | number => exact oppositeReadings_number h id clock v
  | datetime => exact oppositeReadings_datetime h id clock v
  | text =>
    cases n with
    | single => exact oppositeReadings_text h id clock v
    | multi => exact oppositeReadings_texts h id clock v
  | structured =>
    cases n with
    | single => exact oppositeReadings_text h id clock v
    | multi => exact oppositeReadings_texts h id clock v

end Criterion

/-! ## Predicates -/

namespace Sql

/-- Of two predicates one is true and the other is not. -/
def Opposed (d : Dialect) (e : Engine) (s : Scope) (p p' : Predicate) : Prop :=
  p.eval d e s = .yes ↔ p'.eval d e s ≠ .yes

/-- What a column with several values may hold: NULL, or a JSON array. -/
def Datum.IsList (x : Datum) : Prop := x = none ∨ ∃ items, x = some (.json (.arr items))

namespace Opposed

variable {d : Dialect} {e : Engine} {s : Scope} {p p' : Predicate}

theorem symm (h : Opposed d e s p p') : Opposed d e s p' p := by
  unfold Opposed at h ⊢
  tauto

theorem complement (p : Predicate) : Opposed d e s p p.complement := by
  have h : Opposed d e s p.complement p := p.eval_complement
  exact h.symm

theorem isNull (t : Term) : Opposed d e s (.isNull t) (.isNotNull t) := by
  show t.isNull e s = .yes ↔ (t.isNull e s).not ≠ .yes
  rw [Term.isNull]
  cases (t.eval e s).isNone <;> decide

variable (he : e.Lawful)

include he

/-- A text that is there is compared with the empty text one way or the other. -/
theorem isBlank (t : Term) : Opposed d e s (.isBlank t) (.isNotBlank t) := by
  show (t.isNull e s).or (e.compare .eq (t.eval e s) (some (.text ""))) = .yes
    ↔ (e.compare .eq (t.eval e s) (some (.text ""))).not ≠ .yes
  have hunknown := he.compare_eq_unknown .eq (t.eval e s) (some (.text ""))
  rw [Term.isNull]
  -- on NULL the comparison is unknown on both sides, and only `IS NULL` tells them apart
  cases hx : t.eval e s with
  | none =>
    rw [hx] at hunknown
    rw [hunknown.mpr (.inl rfl)]
    decide
  | some x =>
    rw [hx] at hunknown
    cases hc : e.compare .eq (some x) (some (.text "")) with
    | no => simp [Truth.ofBool, Truth.or, Truth.not]
    | yes => simp [Truth.or_eq_yes, Truth.not]
    | unknown => simp [hc] at hunknown

/-- The length of a list is zero or more; that of NULL is compared with neither outcome. -/
theorem hasNoElements (t : Term) (ht : Datum.IsList (t.eval e s)) :
    Opposed d e s (.hasNoElements t) (.hasElements t) := by
  show (t.isNull e s).or (e.compare .eq (t.length e s) (some (.int 0))) = .yes
    ↔ e.compare .gt (t.length e s) (some (.int 0)) ≠ .yes
  rw [Term.isNull, Term.length]
  rcases ht with hnull | ⟨items, hitems⟩
  · have hunknown := (he.compare_eq_unknown .gt none (some (.int 0))).mpr (.inl rfl)
    rw [hnull, he.arrayLength_null, Option.map_none, hunknown]
    simp [Truth.ofBool, Truth.or]
  · rw [hitems, he.arrayLength_array, Option.map_some, he.compare_int, he.compare_int]
    simp only [Truth.or_eq_yes, Truth.ofBool_eq_yes, Comparison.holds, Option.isNone_some,
      decide_eq_true_eq, ne_eq, Bool.false_eq_true, false_or]
    omega

end Opposed

end Sql

namespace Target

variable (t : Target) {n : Cardinality} {e : Engine} {s : Scope}

/-- Whether the cells of the column hold what they may. -/
def HoldsList (t : Target) (s : Scope) : Prop :=
  t.column.cardinality = .multi → Datum.IsList (s.row t.table t.column.dbName)

theorem opposed_isEmpty (he : e.Lawful)
    (hcell : n = .multi → Datum.IsList (s.row t.table t.column.dbName)) :
    Opposed t.dialect e s (t.ofCriterion (n := n) .isEmpty)
      (t.ofCriterion (n := n) .isNotEmpty) := by
  have hterm : t.term.eval e s = s.row t.table t.column.dbName := rfl
  unfold ofCriterion Postgres.predicate Sqlite.predicate
  cases n with
  | single =>
    by_cases hk : t.column.kind = .text
    · cases t.dialect <;> simp only [hk, if_true] <;> exact .isBlank he t.term
    · cases t.dialect <;> simp only [hk, if_false] <;> exact .isNull t.term
  | multi =>
    have hlist : Datum.IsList (t.term.eval e s) := hterm ▸ hcell rfl
    cases t.dialect <;> exact .hasNoElements he t.term hlist

/-- A criterion fails where its predicate is not true. -/
theorem ofCriterion_fails (test : ValueTest) :
    t.ofCriterion (n := n) (.fails test) = (t.ofCriterion (n := n) (.passes test)).complement := by
  unfold ofCriterion Postgres.predicate Sqlite.predicate
  cases t.dialect <;> cases n <;> rfl

/-- Opposite criteria have predicates of which one is true on each row. -/
theorem opposed_ofCriterion (he : e.Lawful) {q q' : Criterion n} (h : q.Opposite q')
    (hcell : n = .multi → Datum.IsList (s.row t.table t.column.dbName)) :
    Opposed t.dialect e s (t.ofCriterion q) (t.ofCriterion q') := by
  cases h with
  | passes test =>
    rw [ofCriterion_fails]
    exact .complement _
  | fails test =>
    rw [ofCriterion_fails]
    exact (Opposed.complement _).symm
  | isEmpty => exact t.opposed_isEmpty he hcell

/-- Opposite criteria bind the same values. -/
theorem values_ofCriterion {q q' : Criterion n} (h : q.Opposite q') (d : Dialect) :
    ((t.ofCriterion q).template d).values = ((t.ofCriterion q').template d).values := by
  cases h with
  | passes test => rw [ofCriterion_fails, Predicate.values_complement]
  | fails test => rw [ofCriterion_fails, Predicate.values_complement]
  | isEmpty =>
    unfold ofCriterion Postgres.predicate Sqlite.predicate
    cases t.dialect <;> cases n <;> cases t.column.kind <;> rfl

/-- An operator and its complement split the rows between them. Where one cannot be compiled for
a value the other cannot, and else both bind the same values, and of the two predicates exactly
one is true on each row, NULLs and empty lists included. -/
theorem complement_partitions (ps : Params) (v : Json) {op op' : Operator}
    (h : op.Complement op') :
    (∃ x x', t.apply ps op v = .error x ∧ t.apply ps op' v = .error x')
    ∨ ∃ p p' qs, t.predicate op v = .ok p ∧ t.predicate op' v = .ok p'
      ∧ t.apply ps op v = .ok ((p.template t.dialect).text ps.dialect ps.bound, qs)
      ∧ t.apply ps op' v = .ok ((p'.template t.dialect).text ps.dialect ps.bound, qs)
      ∧ ∀ (e : Engine) (s : Scope), e.Lawful → t.HoldsList s →
        (p.eval t.dialect e s = .yes ↔ p'.eval t.dialect e s ≠ .yes) := by
  have hread := Criterion.opposite_read? h t.column.id t.clock v t.column.kind t.column.cardinality
  unfold apply predicate
  generalize Criterion.read? _ _ ⟨t.column.id, op, t.clock⟩ v = x at hread ⊢
  generalize Criterion.read? _ _ ⟨t.column.id, op', t.clock⟩ v = x' at hread ⊢
  cases hread with
  | none => exact .inl ⟨_, _, rfl, rfl⟩
  | error x y => exact .inl ⟨_, _, rfl, rfl⟩
  | @ok q q' hq =>
    refine .inr ⟨t.ofCriterion q, t.ofCriterion q', _, rfl, rfl, rfl, ?_, ?_⟩
    · have hvalues := t.values_ofCriterion hq t.dialect
      show Except.ok (_, ps.append _) = Except.ok (_, ps.append _)
      rw [hvalues]
    · intro e s he hcell
      exact t.opposed_ofCriterion he hq hcell

end Target

/-! ## A database of texts -/

namespace Sql

/-- An element as SQLite lists it. -/
def eachElement : Json → Element
  | .null => ⟨none, some (.text "null")⟩
  | .bool b => ⟨some (.int (if b then 1 else 0)), some (.text (if b then "true" else "false"))⟩
  | .int i => ⟨some (.int i), some (.text "integer")⟩
  | .float x => ⟨some (.float x), some (.text "real")⟩
  | .str s => ⟨some (.text s), some (.text "text")⟩
  | .arr items => ⟨some (.json (.arr items)), some (.text "array")⟩
  | .obj fields => ⟨some (.json (.obj fields)), some (.text "object")⟩

/-- Whether a comparison holds between integers or texts. -/
def valuesCompare (c : Comparison) : Value → Value → Bool
  | .int m, .int n => c.holds m n
  | .text s, .text t => c = .eq && s = t
  | _, _ => false

/-- A database that compares integers, tells texts apart and lists the elements of arrays as SQLite
does. What else it is asked it does not know. -/
def textDatabase : Engine where
  compare c
    | some x, some y => .ofBool (valuesCompare c x y)
    | _, _ => .unknown
  like _ _ := .unknown
  field _ _ := none
  asText x := x
  arrayLength
    | some (.json (.arr items)) => some items.length
    | _ => none
  rows
    | .each, some (.json (.arr items)) => items.map eachElement
    | _, _ => []
  aggregate _ := none
  countDistinct _ := 0
  contains _ _ := .unknown
  containedIn _ _ := .unknown
  hasAny _ _ := .unknown
  hasAll _ _ := .unknown
  pathIsTrue _ := .unknown
  pathExists _ _ := .unknown

theorem lawful_textDatabase : textDatabase.Lawful where
  compare_eq_unknown c a b := by
    cases a with
    | none => simp [textDatabase]
    | some x =>
      cases b with
      | none => simp [textDatabase]
      | some y => simp [textDatabase, Truth.ofBool_ne_unknown]
  compare_int c m n := rfl
  arrayLength_null := rfl
  arrayLength_array items := rfl

end Sql

/-- A list of tags. -/
def tagColumn : Column :=
  { id := "tags", dbName := "tags", semanticType := .text, isMultiValued := true }

/-- A row without tags and one with two are split between `anyOf` and `noneOf`. -/
theorem complement_partitions_tags :
    let t : Target := ⟨.sqlite, tagColumn, none, ⟨.utc, ⟨0, 0⟩⟩⟩
    let v : Json := .arr [.str "red", .str "blue"]
    let untagged : Scope := ⟨fun _ _ => none, ⟨none, none⟩⟩
    let tagged : Scope :=
      ⟨fun _ _ => some (.json (.arr [.str "green", .str "red"])), ⟨none, none⟩⟩
    ∃ p p', t.predicate .anyOf v = .ok p ∧ t.predicate .noneOf v = .ok p'
      ∧ p'.eval .sqlite textDatabase untagged = .yes
      ∧ p'.eval .sqlite textDatabase tagged ≠ .yes := by
  intro t v untagged tagged
  rcases t.complement_partitions (.startingAfter .sqlite 0) v .anyOf with
    ⟨x, _, hx, -⟩ | ⟨p, p', _, hp, hp', -, -, hsplit⟩
  · cases hx
  · have hnull := hsplit textDatabase untagged lawful_textDatabase fun _ => .inl rfl
    have hlist := hsplit textDatabase tagged lawful_textDatabase fun _ => .inr ⟨_, rfl⟩
    refine ⟨p, p', hp, hp', ?_, ?_⟩
    · by_contra hno
      have hyes := hnull.mpr hno
      cases hp
      exact absurd hyes (by decide)
    · refine hlist.mp ?_
      cases hp
      decide

end RowFilter
