import RowFilter.Proofs.Requirement
/-!
# The form of criteria

A criterion without its values. The operator of a condition decides the form, whatever the
value of the condition; only on a boolean column the value has a say in it.

Results:
* `readFrom_of_read?`: a criterion that was read has the form of its operator, and its texts are
  the list that was read.
* `ReadFrom.listOperator?`: the form tells which operator on lists it was.
* `kind_of_ofDates`: only columns of dates are compared with instants.
-/
namespace RowFilter

/-- A test of a value without what it compares with. -/
inductive TestForm
  | isTrue
  | number (c : Comparison)
  | during | before | onOrAfter | after | onOrBefore
  | equals | contains | oneOf
  deriving DecidableEq, Repr

/-- A criterion without its values. -/
inductive Form
  | passes (t : TestForm)
  | fails (t : TestForm)
  | isEmpty | isNotEmpty | hasAll | hasExactly
  deriving DecidableEq, Repr

def ValueTest.form : ValueTest → TestForm
  | isTrue => .isTrue
  | number c _ => .number c
  | during _ _ => .during
  | before _ => .before
  | onOrAfter _ => .onOrAfter
  | after _ => .after
  | onOrBefore _ => .onOrBefore
  | equals _ => .equals
  | contains _ => .contains
  | oneOf _ => .oneOf

/-- Whether the test compares with instants. -/
def TestForm.ofDates : TestForm → Bool
  | during | before | onOrAfter | after | onOrBefore => true
  | _ => false

namespace Form

/-- The form of a test of equality on a kind of cell. -/
def equal : CellKind → TestForm
  | .boolean => .isTrue
  | .number => .number .eq
  | .datetime => .during
  | .text | .structured => .equals

/-- The form of an ordering on a kind of cell. -/
def ordering (kind : CellKind) (c : Comparison) (date : TestForm) : TestForm :=
  if kind = .datetime then date else .number c

/-- The form of the criterion of an operator. The truth of the value matters where the cells
hold truth values. -/
def ofOperator (kind : CellKind) (op : Operator) (truthy : Bool) : Form :=
  match op.canonical with
  | .equals => if kind = .boolean ∧ !truthy then fails (equal kind) else passes (equal kind)
  | .notEquals => if kind = .boolean ∧ !truthy then passes (equal kind) else fails (equal kind)
  | .within => passes .during
  | .greaterThan => passes (ordering kind .gt .after)
  | .greaterOrEqual => passes (ordering kind .ge .onOrAfter)
  | .lessThan => passes (ordering kind .lt .before)
  | .lessOrEqual => passes (ordering kind .le .onOrBefore)
  | .contains => passes .contains
  | .notContains => fails .contains
  | .anyOf => passes .oneOf
  | .noneOf => fails .oneOf
  | .allOf => hasAll
  | .exactly => hasExactly
  | .isEmpty => if kind = .boolean then fails .isTrue else isEmpty
  | _ => if kind = .boolean then passes .isTrue else isNotEmpty

/-- Whether the criterion compares with instants. -/
def ofDates : Form → Bool
  | passes t | fails t => t.ofDates
  | _ => false

/-- The operator of a criterion that compares with a list of texts. -/
def listOperator? : Form → Option Operator
  | passes .oneOf => some .anyOf
  | fails .oneOf => some .noneOf
  | hasAll => some .allOf
  | hasExactly => some .exactly
  | _ => none

end Form

/-- Whether the value of the operator is a list of texts. -/
def Operator.takesList : Operator → Bool
  | anyOf | noneOf | allOf | exactly => true
  | _ => false

theorem Form.listOperator?_ofOperator (kind : CellKind) (op : Operator) (b : Bool) :
    (Form.ofOperator kind op b).listOperator? = if op.takesList then some op else none := by
  cases kind <;> cases op <;> cases b <;> rfl

/-- Only a column of dates is compared with instants. -/
theorem Form.kind_of_ofDates {kind : CellKind} {n : Cardinality} {op : Operator} {b : Bool}
    (hop : op ∈ legalOperators kind n) (h : (Form.ofOperator kind op b).ofDates = true) :
    kind = .datetime := by
  cases kind with
  | datetime => rfl
  | _ => revert hop h; cases n <;> cases op <;> cases b <;> decide

namespace Criterion

variable {n : Cardinality}

def form : Criterion n → Form
  | passes t => .passes t.form
  | fails t => .fails t.form
  | isEmpty => .isEmpty
  | isNotEmpty => .isNotEmpty
  | hasAll _ => .hasAll
  | hasExactly _ => .hasExactly

/-- The list of texts a criterion compares with, if it has one. -/
def texts? : Criterion n → Option (List String)
  | passes (.oneOf ss) | fails (.oneOf ss) | hasAll ss | hasExactly ss => some ss
  | _ => none

/-- A criterion as the operator and the value of a condition make it. -/
structure ReadFrom (kind : CellKind) (op : Operator) (v : Json) (q : Criterion n) : Prop where
  form : q.form = .ofOperator kind op v.truthy
  texts : ∀ ss, q.texts? = some ss → v.textListOperand = .ok ss

/-- The operator is that of the list the criterion compares with, if there is one. -/
theorem ReadFrom.listOperator? {kind : CellKind} {op : Operator} {v : Json} {q : Criterion n}
    (h : q.ReadFrom kind op v) :
    q.form.listOperator? = if op.takesList then some op else none :=
  h.form ▸ Form.listOperator?_ofOperator kind op v.truthy

theorem ok_of_operand {α : Type} {s : Site} {x : Except ValueFault α} {a : α}
    (h : s.operand x = .ok a) : x = .ok a := by
  cases x with
  | error e => cases h
  | ok b => exact congrArg _ (Except.ok.inj h)

/-- What was read is the operand in the criterion of the operator. -/
theorem of_map {α : Type} {x : Except FilterError α} {f : α → Criterion n} {q : Criterion n}
    (h : some (x.map f) = some (.ok q)) : ∃ a, x = .ok a ∧ f a = q := ok_of_map (Option.some.inj h)

variable {s : Site} {v : Json} {q : Criterion n}

theorem readFrom_boolean {op : Operator} (h : readBoolean? op v = some q) :
    q.ReadFrom .boolean op v := by
  cases hop : op.canonical <;> simp only [readBoolean?, hop, reduceCtorEq] at h <;> cases h <;>
    cases hv : v.truthy <;> exact ⟨by rw [Form.ofOperator, hop, hv]; rfl, nofun⟩

theorem readFrom_number (h : readNumber? s v = some (.ok q)) : q.ReadFrom .number s.op v := by
  cases hop : s.op.canonical with
  | isEmpty | isNotEmpty =>
    simp only [readNumber?, hop] at h
    cases h
    exact ⟨by rw [Form.ofOperator, hop]; rfl, nofun⟩
  | _ =>
    simp only [readNumber?, hop, reduceCtorEq] at h <;> obtain ⟨x, -, rfl⟩ := of_map h <;>
      exact ⟨by rw [Form.ofOperator, hop]; rfl, nofun⟩

theorem readFrom_datetime (h : readDatetime? s v = some (.ok q)) :
    q.ReadFrom .datetime s.op v := by
  cases hop : s.op.canonical with
  | isEmpty | isNotEmpty =>
    simp only [readDatetime?, hop] at h
    cases h
    exact ⟨by rw [Form.ofOperator, hop]; rfl, nofun⟩
  | _ =>
    simp only [readDatetime?, hop, reduceCtorEq] at h <;> obtain ⟨x, -, rfl⟩ := of_map h <;>
      exact ⟨by rw [Form.ofOperator, hop]; rfl, nofun⟩

theorem readFrom_text (kind : CellKind) (hk : kind = .text ∨ kind = .structured)
    (h : readText? s v = some (.ok q)) : q.ReadFrom kind s.op v := by
  cases hop : s.op.canonical with
  | isEmpty | isNotEmpty =>
    simp only [readText?, hop] at h
    cases h
    rcases hk with rfl | rfl <;> exact ⟨by rw [Form.ofOperator, hop]; rfl, nofun⟩
  | anyOf | noneOf =>
    simp only [readText?, hop] at h
    obtain ⟨ss, hss, rfl⟩ := of_map h
    rcases hk with rfl | rfl <;> exact ⟨by rw [Form.ofOperator, hop]; rfl, fun _ ht => by
      cases ht; exact ok_of_operand hss⟩
  | _ =>
    simp only [readText?, hop, reduceCtorEq] at h <;> obtain ⟨x, -, rfl⟩ := of_map h <;>
      rcases hk with rfl | rfl <;> exact ⟨by rw [Form.ofOperator, hop]; rfl, nofun⟩

theorem readFrom_texts {q : Criterion .multi} (kind : CellKind)
    (hk : kind = .text ∨ kind = .structured) (h : readTexts? s v = some (.ok q)) :
    q.ReadFrom kind s.op v := by
  cases hop : s.op.canonical with
  | allOf | exactly =>
    simp only [readTexts?, hop] at h
    obtain ⟨ss, hss, rfl⟩ := of_map h
    rcases hk with rfl | rfl <;> exact ⟨by rw [Form.ofOperator, hop]; rfl, fun _ ht => by
      cases ht; exact ok_of_operand hss⟩
  | _ =>
    simp only [readTexts?, hop] at h
    exact readFrom_text kind hk h

/-- What a criterion that was read has of the operator and the value. -/
theorem readFrom_of_read? {kind : CellKind} {n : Cardinality} {q : Criterion n}
    (h : read? kind n s v = some (.ok q)) : q.ReadFrom kind s.op v := by
  cases kind with
  | boolean =>
    obtain ⟨q', hq, heq⟩ := Option.map_eq_some_iff.mp h
    exact readFrom_boolean (Except.ok.inj heq ▸ hq)
  | number => exact readFrom_number h
  | datetime => exact readFrom_datetime h
  | text =>
    cases n with
    | single => exact readFrom_text .text (.inl rfl) h
    | multi => exact readFrom_texts .text (.inl rfl) h
  | structured =>
    cases n with
    | single => exact readFrom_text .structured (.inr rfl) h
    | multi => exact readFrom_texts .structured (.inr rfl) h

end Criterion

end RowFilter
