import RowFilter.Calendar.Zone.Database
import RowFilter.Proofs.Requirement
/-!
# Why filters are refused

A condition is refused for its column, its operator, its value or the zone of its column. That
its column has no use for the operator is never the reason: an operator that is legal is one the
column can be compiled for.

Results:
* `fault?_traverse`, `fault?_prune`: the error of a tree is that of its first leaf that has one.
* `isSome_read?_iff`: what a kind of cell has a use for, legal or not.
* `refused_of_requirement`: why a condition is refused, one case for each reason.
* `fault?_leaf`: the error of a condition alone.
* `fault?_requirements`: which of its conditions a filter is refused for.
* `legality_agrees`: legal operators are those that are compiled, and what is internal in a refusal.
-/
namespace RowFilter

open Sql

/-! ## Errors of results -/

section

variable {α β ε : Type}

/-- The error of a result that is one. -/
def fault? : Except ε α → Option ε
  | .error e => some e
  | .ok _ => none

theorem fault?_eq_some {x : Except ε α} {e : ε} : fault? x = some e ↔ x = .error e := by
  cases x <;> simp [fault?]

theorem fault?_eq_none {x : Except ε α} : fault? x = none ↔ ∃ a, x = .ok a := by
  cases x <;> simp [fault?]

theorem exists_error_iff {x : Except ε α} : (∃ e, x = .error e) ↔ fault? x ≠ none := by
  cases x <;> simp [fault?]

@[simp] theorem fault?_map (f : α → β) (x : Except ε α) : fault? (x.map f) = fault? x := by
  cases x <;> rfl

end

namespace Tree

variable {α β ε : Type}

mutual

/-- The error of a traversal is that of the first leaf that has one. -/
theorem fault?_traverse (f : α → Except ε β) (t : Tree α) :
    fault? (traverse f t) = t.leaves.findSome? fun a => fault? (f a) := by
  cases t with
  | leaf a =>
    rw [traverse, fault?_map, leaves, List.findSome?_singleton]
  | group c ts =>
    rw [traverse, fault?_map, fault?_traverseOf f ts]
    rfl

theorem fault?_traverseOf (f : α → Except ε β) (ts : List (Tree α)) :
    fault? (traverseOf f ts) = (leavesOf ts).findSome? fun a => fault? (f a) := by
  cases ts with
  | nil => rfl
  | cons t ts =>
    rw [leavesOf, List.findSome?_append, ← fault?_traverse f t, ← fault?_traverseOf f ts,
      traverseOf]
    cases traverse f t with
    | error e => rfl
    | ok u => cases traverseOf f ts <;> rfl

end

mutual

/-- The error of a pruning is that of the first leaf that has one. -/
theorem fault?_prune (f : α → Except ε (Option β)) (t : Tree α) :
    fault? (prune f t) = t.leaves.findSome? fun a => fault? (f a) := by
  cases t with
  | leaf a =>
    rw [prune, fault?_map, leaves, List.findSome?_singleton]
  | group c ts =>
    rw [leaves, ← fault?_pruneOf f ts, prune]
    cases pruneOf f ts with
    | error e => rfl
    | ok us => cases us <;> rfl

theorem fault?_pruneOf (f : α → Except ε (Option β)) (ts : List (Tree α)) :
    fault? (pruneOf f ts) = (leavesOf ts).findSome? fun a => fault? (f a) := by
  cases ts with
  | nil => rfl
  | cons t ts =>
    rw [leavesOf, List.findSome?_append, ← fault?_prune f t, ← fault?_pruneOf f ts, pruneOf]
    cases prune f t with
    | error e => rfl
    | ok u => cases pruneOf f ts <;> rfl

end

end Tree

/-! ## Errors of conditions -/

namespace FilterError

/-- Whether the value of a condition is at fault. -/
def isOfValue : FilterError → Bool
  | malformedValue .. | invalidDateMode .. | noDateRange .. => true
  | _ => false

/-- Whether a column has no use for an operator. -/
def isUnsupported : FilterError → Bool
  | unsupported .. => true
  | _ => false

/-- Whether a placeholder stands for a user and none asks. -/
def isMissingActor : FilterError → Bool
  | missingActor _ => true
  | _ => false

/-- A fault of a value is the caller's, and not for want of an actor. -/
theorem of_isOfValue {e : FilterError} (h : e.isOfValue = true) :
    e.isUnsupported = false ∧ e.isMissingActor = false ∧ e.isInternal = false := by
  cases e <;> first | exact ⟨rfl, rfl, rfl⟩ | cases h

/-- The error that is reported of several, in document order: the first for want of an actor if
there is one, as these are found out before all others. -/
def foremost (faults : List FilterError) : Option FilterError :=
  (faults.find? (·.isMissingActor)).or faults.head?

theorem foremost_eq_none_iff {faults : List FilterError} :
    foremost faults = none ↔ faults = [] := by
  cases faults with
  | nil => exact iff_of_true rfl rfl
  | cons e es => simp [foremost]

theorem mem_of_foremost {faults : List FilterError} {e : FilterError}
    (h : foremost faults = some e) : e ∈ faults := by
  rcases Option.or_eq_some_iff.mp h with h | ⟨-, h⟩
  · exact List.mem_of_find?_eq_some h
  · exact List.mem_of_head? h

end FilterError

namespace Criterion

variable {n : Cardinality} {s : Site} {v : Json} {e : FilterError}

/-- A kind of cell has a use for the operators that are legal on it, and for the operators that
date words among these stand for. -/
theorem isSome_read?_iff {kind : CellKind} {op : Operator} (id : String) (clock : Clock) :
    (read? kind n ⟨id, op, clock⟩ v).isSome = true ↔ op.canonical ∈ legalOperators kind n := by
  cases kind <;> cases n <;> cases op <;>
    first | exact iff_of_true rfl (by decide) | exact iff_of_false nofun (by decide)

theorem isOfValue_operand {α : Type} {x : Except ValueFault α} (h : s.operand x = .error e) :
    e.isOfValue = true := by
  cases x with
  | error fault => cases h; rfl
  | ok a => cases h

theorem isOfValue_dateFilter (h : s.dateFilter v = .error e) : e.isOfValue = true := by
  rcases error_of_bind h with h | ⟨f, -, h⟩
  · exact isOfValue_operand h
  · by_cases hmode : (if s.op = .within then f.mode.isRolling else f.mode.isDay) = true
    · rw [if_pos hmode] at h; cases h
    · rw [if_neg hmode] at h; cases h; rfl

theorem isOfValue_dateRange (h : s.dateRange v = .error e) : e.isOfValue = true := by
  rcases error_of_bind h with h | ⟨f, -, h⟩
  · exact isOfValue_dateFilter h
  · cases hr : f.resolve s.clock.zone s.clock.now with
    | error fault => rw [hr] at h; cases h; rfl
    | ok range => rw [hr] at h; cases h

/-- A result that is replaced fails for the value if the result does. -/
theorem isOfValue_of_map {α : Type} {x : Except FilterError α} {f : α → Criterion n}
    (hx : ∀ e, x = .error e → e.isOfValue = true) (h : some (x.map f) = some (.error e)) :
    e.isOfValue = true :=
  hx e (error_of_map (Option.some.inj h))

theorem isOfValue_readNumber? (h : readNumber? (n := n) s v = some (.error e)) :
    e.isOfValue = true := by
  cases hop : s.op.canonical <;> simp only [readNumber?, hop, reduceCtorEq] at h <;>
    first | exact isOfValue_of_map (fun _ => isOfValue_operand) h | cases h

theorem isOfValue_readDatetime? (h : readDatetime? (n := n) s v = some (.error e)) :
    e.isOfValue = true := by
  cases hop : s.op.canonical <;> simp only [readDatetime?, hop, reduceCtorEq] at h <;>
    first | exact isOfValue_of_map (fun _ => isOfValue_dateRange) h | cases h

theorem isOfValue_readText? (h : readText? (n := n) s v = some (.error e)) :
    e.isOfValue = true := by
  cases hop : s.op.canonical <;> simp only [readText?, hop, reduceCtorEq] at h <;>
    first | exact isOfValue_of_map (fun _ => isOfValue_operand) h | cases h

theorem isOfValue_readTexts? (h : readTexts? s v = some (.error e)) : e.isOfValue = true := by
  cases hop : s.op.canonical <;> simp only [readTexts?, hop] at h <;>
    first | exact isOfValue_of_map (fun _ => isOfValue_operand) h | exact isOfValue_readText? h

/-- Reading an operator and a value that there is a use for fails for the value. -/
theorem isOfValue_read? {kind : CellKind} (h : read? kind n s v = some (.error e)) :
    e.isOfValue = true := by
  cases kind with
  | boolean =>
    obtain ⟨q, -, hq⟩ := Option.map_eq_some_iff.mp h
    cases hq
  | number => exact isOfValue_readNumber? h
  | datetime => exact isOfValue_readDatetime? h
  | text | structured =>
    cases n with
    | single => exact isOfValue_readText? h
    | multi => exact isOfValue_readTexts? h

end Criterion

/-- Why a condition is refused. -/
inductive Refused (zones : Zone.Database) (schema : Schema) (q : Condition) : FilterError → Prop
  | column (h : schema q.columnId = none) : Refused zones schema q (.unknownColumn q.columnId)
  | operator {column : Column} (h : schema q.columnId = some column) (fault : OperatorFault) :
    Refused zones schema q (.invalidOperator column.id q.operator fault)
  | value {e : FilterError} (h : e.isOfValue = true) : Refused zones schema q e
  /-- A column of dates names a zone that there is not. -/
  | zone {column : Column} {name : String} (h : schema q.columnId = some column)
    (hkind : column.kind = .datetime) (hname : column.options.timeZone = some name)
    (hzone : zones (Text.trim name) = none) : Refused zones schema q (.unknownZone column.id name)

namespace Refused

variable {zones : Zone.Database} {schema : Schema} {q : Condition} {e : FilterError}

theorem isUnsupported (h : Refused zones schema q e) : e.isUnsupported = false := by
  cases h with
  | value h => exact (FilterError.of_isOfValue h).1
  | _ => rfl

theorem isMissingActor (h : Refused zones schema q e) : e.isMissingActor = false := by
  cases h with
  | value h => exact (FilterError.of_isOfValue h).2.1
  | _ => rfl

/-- A condition is refused for what it was before the actor was named. -/
theorem of_prepare {placeholder : String} {actor : Option String} {q' : Condition}
    (hprep : q.prepare schema placeholder actor = .ok (some q')) (h : Refused zones schema q' e) :
    Refused zones schema q e := by
  obtain ⟨hid, hoperator, -⟩ := Condition.prepare_ok hprep
  cases h with
  | column hs => rw [hid] at hs ⊢; exact .column hs
  | operator hs fault => rw [hid] at hs; rw [hoperator]; exact .operator hs fault
  | value he => exact .value he
  | zone hs hkind hname hzone => exact .zone (hid ▸ hs) hkind hname hzone

/-- Only the zone of a column of dates is no fault of the caller's. -/
theorem of_isInternal (h : Refused zones schema q e) (hi : e.isInternal = true) :
    ∃ column name, schema q.columnId = some column ∧ column.kind = .datetime
      ∧ column.options.timeZone = some name ∧ zones (Text.trim name) = none
      ∧ e = .unknownZone column.id name := by
  cases h with
  | column h => cases hi
  | operator h fault => cases hi
  | value h => rw [(FilterError.of_isOfValue h).2.2] at hi; cases hi
  | zone h hkind hname hzone => exact ⟨_, _, h, hkind, hname, hzone, rfl⟩

end Refused

namespace Condition

theorem resolve_error {q : Condition} {column : Column} {e : FilterError}
    (h : q.resolve column = .error e) :
    ∃ fault, e = .invalidOperator column.id q.operator fault := by
  rw [resolve] at h
  split at h
  · cases h; exact ⟨_, rfl⟩
  · split at h
    · cases h
    · cases h; exact ⟨_, rfl⟩

/-- Only for want of an actor can a condition not be prepared. -/
theorem prepare_error {schema : Schema} {placeholder : String} {actor : Option String}
    {q : Condition} {e : FilterError} (h : q.prepare schema placeholder actor = .error e) :
    ∃ column, schema q.columnId = some column ∧ e = .missingActor column.id := by
  rw [prepare] at h
  cases hs : schema q.columnId with
  | none => rw [hs] at h; cases h
  | some column =>
    rw [hs] at h
    refine ⟨column, rfl, ?_⟩
    rcases error_of_bind h with h | ⟨w, -, h⟩
    · unfold withActor at h
      split at h
      · cases actor with
        | none => cases h; rfl
        | some actor => cases h
      · cases h
    · cases h

end Condition

namespace Compiler

variable (c : Compiler) {schema : Schema} {ctx : Context} {e : FilterError}

theorem zone_error {column : Column} (h : c.zone column = .error e) :
    column.kind = .datetime ∧ ∃ name, column.options.timeZone = some name
      ∧ c.zones (Text.trim name) = none ∧ e = .unknownZone column.id name := by
  unfold zone at h
  split at h
  · refine ⟨‹_›, ?_⟩
    unfold Column.zone at h
    split at h
    · cases h
    · split at h
      · cases h
      · cases h
        exact ⟨_, ‹_›, ‹_›, rfl⟩
  · cases h

theorem dateCheck_error {now : Instant} {column : Column} {op : Operator} {v : Json}
    (h : c.dateCheck now column op v = .error e) : e.isOfValue = true := by
  unfold dateCheck at h
  split at h
  · exact Criterion.isOfValue_dateFilter (error_of_map h)
  · cases h

/-- Why a condition is refused. -/
theorem refused_of_requirement {now : Instant} {q : Condition}
    (h : c.requirement schema now q = .error e) : Refused c.zones schema q e := by
  cases hs : schema q.columnId with
  | none =>
    rw [requirement, hs] at h
    cases h
    exact .column hs
  | some column =>
    rw [c.requirement_of_schema schema hs] at h
    rcases error_of_bind h with h | ⟨op, hop, h⟩
    · obtain ⟨fault, rfl⟩ := Condition.resolve_error h
      exact .operator hs fault
    rcases error_of_bind h with h | ⟨_, -, h⟩
    · exact .value (c.dateCheck_error h)
    rcases error_of_bind h with h | ⟨zone, -, h⟩
    · obtain ⟨hkind, name, hname, hzone, rfl⟩ := c.zone_error h
      exact .zone hs hkind hname hzone
    -- the operator is legal, so there is a use for it and only the value is left to be at fault
    obtain ⟨x, hx⟩ := Option.isSome_iff_exists.mp
      (isSome_read? (mem_legalOperators_of_resolve hop).2 column.id ⟨zone, now⟩ q.value)
    rw [hx] at h
    rw [error_of_map h] at hx
    exact .value (Criterion.isOfValue_read? hx)

variable (schema ctx)

/-- Why a condition is refused: for want of an actor, or for what it is once the actor is named. -/
def conditionFault? (q : Condition) : Option FilterError :=
  match q.prepare schema c.actorPlaceholder ctx.actor with
  | .error e => some e
  | .ok none => none
  | .ok (some q) => fault? (c.requirement schema ctx.now q)

variable {c schema ctx} in
theorem conditionFault?_eq_some {q : Condition} (h : c.conditionFault? schema ctx q = some e) :
    (∃ column, schema q.columnId = some column ∧ e = .missingActor column.id)
      ∨ Refused c.zones schema q e := by
  rw [conditionFault?] at h
  cases hprep : q.prepare schema c.actorPlaceholder ctx.actor with
  | error e' =>
    rw [hprep] at h
    cases h
    exact .inl (Condition.prepare_error hprep)
  | ok o =>
    rw [hprep] at h
    cases o with
    | none => cases h
    | some q' =>
      exact .inr (.of_prepare hprep (c.refused_of_requirement (fault?_eq_some.mp h)))

variable {c schema ctx} in
/-- A condition that is not refused is dropped, or compiled. -/
theorem conditionFault?_eq_none {q : Condition} (h : c.conditionFault? schema ctx q = none) :
    q.prepare schema c.actorPlaceholder ctx.actor = .ok none
      ∨ ∃ q' r, q.prepare schema c.actorPlaceholder ctx.actor = .ok (some q')
        ∧ c.requirement schema ctx.now q' = .ok r := by
  rw [conditionFault?] at h
  cases hprep : q.prepare schema c.actorPlaceholder ctx.actor with
  | error e => rw [hprep] at h; cases h
  | ok o =>
    rw [hprep] at h
    cases o with
    | none => exact .inl rfl
    | some q' =>
      obtain ⟨r, hr⟩ := fault?_eq_none.mp h
      exact .inr ⟨q', r, rfl, hr⟩

/-! ## Errors of filters -/

theorem fault?_predicate (k : Nat) (f : Filter) :
    fault? (c.predicate schema ctx k f) = fault? (c.requirements schema ctx f) := by
  rw [predicate_eq, fault?_map]

/-- Why a condition alone is refused. -/
theorem fault?_leaf (k : Nat) (q : Condition) :
    fault? (c.predicate schema ctx k (.leaf q)) = c.conditionFault? schema ctx q := by
  rw [fault?_predicate, requirements, Filter.prepare, Tree.prune, conditionFault?]
  cases q.prepare schema c.actorPlaceholder ctx.actor with
  | error e => rfl
  | ok o =>
    cases o with
    | none => rfl
    | some q => exact (fault?_map _ _).trans (fault?_map _ _)

/-- Only while a condition is prepared is an actor missed. -/
theorem filter_conditionFault? (q : Condition) :
    (c.conditionFault? schema ctx q).filter (·.isMissingActor)
      = fault? (q.prepare schema c.actorPlaceholder ctx.actor) := by
  rw [conditionFault?]
  cases hprep : q.prepare schema c.actorPlaceholder ctx.actor with
  | error e =>
    obtain ⟨column, -, rfl⟩ := Condition.prepare_error hprep
    rfl
  | ok o =>
    cases o with
    | none => rfl
    | some q' =>
      show (fault? (c.requirement schema ctx.now q')).filter (·.isMissingActor) = none
      cases hreq : c.requirement schema ctx.now q' with
      | ok r => rfl
      | error e => simp [fault?, (c.refused_of_requirement hreq).isMissingActor]

/-- Once all conditions are prepared, the first to be refused is the first of those kept that is. -/
theorem findSome?_conditionFault? {qs : List Condition} {os : List (Option Condition)}
    (h : List.Forall₂ (fun q o => q.prepare schema c.actorPlaceholder ctx.actor = .ok o) qs os) :
    qs.findSome? (c.conditionFault? schema ctx)
      = (os.filterMap id).findSome? fun q => fault? (c.requirement schema ctx.now q) := by
  induction h with
  | nil => rfl
  | @cons q o _ _ hprep _ ih =>
    rw [List.findSome?_cons, conditionFault?, hprep, ih]
    cases o with
    | none => rfl
    | some q' => rfl

/-- The condition for which a filter is refused. -/
theorem fault?_requirements (f : Filter) :
    fault? (c.requirements schema ctx f)
      = FilterError.foremost (f.leaves.filterMap (c.conditionFault? schema ctx)) := by
  have hactor : (f.leaves.filterMap (c.conditionFault? schema ctx)).find? (·.isMissingActor)
      = fault? (f.prepare schema c.actorPlaceholder ctx.actor) := by
    rw [← List.head?_filter, List.filter_filterMap, List.head?_filterMap, Filter.prepare,
      Tree.fault?_prune]
    simp only [filter_conditionFault?]
  rw [FilterError.foremost, hactor, List.head?_filterMap, requirements]
  cases hprep : f.prepare schema c.actorPlaceholder ctx.actor with
  | error e => rfl
  | ok o =>
    obtain ⟨os, hos, hkept⟩ := Tree.mapM_leaves_of_prune f hprep
    rw [c.findSome?_conditionFault? schema ctx (forall₂_of_mapM hos), ← hkept]
    cases o with
    | none => rfl
    | some g =>
      show fault? ((Tree.traverse _ g).map some) = _
      rw [fault?_map, Tree.fault?_traverse]
      simp [fault?, Tree.leavesOf]

/-- A filter is refused for one of its conditions. -/
theorem predicate_error {k : Nat} {f : Filter} (h : c.predicate schema ctx k f = .error e) :
    ∃ q ∈ f.leaves, c.conditionFault? schema ctx q = some e := by
  have hfault : FilterError.foremost (f.leaves.filterMap (c.conditionFault? schema ctx))
      = some e := by
    rw [← fault?_requirements, ← fault?_predicate c schema ctx k, h]
    rfl
  exact List.mem_filterMap.mp (FilterError.mem_of_foremost hfault)

end Compiler

/-! ## Legality -/

namespace Target

variable (t : Target) (ps : Params) {op : Operator} {v : Json}

theorem apply_of_not_legal (h : op.canonical ∉ t.column.legalOperators) :
    t.apply ps op v = .error (.unsupported t.column.id op t.compilerName) := by
  have hread : Criterion.read? t.column.kind t.column.cardinality ⟨t.column.id, op, t.clock⟩ v
      = none :=
    Option.not_isSome_iff_eq_none.mp fun hs => h ((Criterion.isSome_read?_iff _ _).mp hs)
  rw [apply, predicate, hread]
  rfl

/-- Where the operator is legal, or stands for one that is, only the value can be at fault. -/
theorem isOfValue_apply {e : FilterError} (h : op.canonical ∈ t.column.legalOperators)
    (he : t.apply ps op v = .error e) : e.isOfValue = true := by
  obtain ⟨x, hx⟩ :=
    Option.isSome_iff_exists.mp ((Criterion.isSome_read?_iff t.column.id t.clock).mpr h)
  rw [apply, predicate, hx] at he
  rw [error_of_map (error_of_map he)] at hx
  exact Criterion.isOfValue_read? hx

theorem isUnsupported_apply_iff :
    (∃ e, t.apply ps op v = .error e ∧ e.isUnsupported = true)
      ↔ op.canonical ∉ t.column.legalOperators := by
  refine ⟨?_, fun h => ⟨_, t.apply_of_not_legal ps h, rfl⟩⟩
  rintro ⟨e, he, hu⟩ h
  rw [(FilterError.of_isOfValue (t.isOfValue_apply ps h he)).1] at hu
  cases hu

end Target

/-- What is legal and what can be compiled are the same. The compiler for a column has no use for
an operator exactly if the operator that it stands for is not legal on the column, whatever the
value, and then says so. No filter is refused for that, and where a filter is refused and the
fault is not the caller's, a condition names a column of dates whose zone there is not. -/
theorem legality_agrees :
    (∀ (t : Target) (ps : Params) (op : Operator) (v : Json),
      ((∃ e, t.apply ps op v = .error e ∧ e.isUnsupported = true)
        ↔ op.canonical ∉ t.column.legalOperators)
      ∧ (t.apply ps op v = .error (.unsupported t.column.id op t.compilerName)
        ↔ op.canonical ∉ t.column.legalOperators))
    ∧ ∀ (c : Compiler) (schema : Schema) (ctx : Context) (k : Nat) (f : Filter) (e : FilterError),
      c.predicate schema ctx k f = .error e →
      e.isUnsupported = false
        ∧ (e.isInternal = true → ∃ q ∈ f.leaves, ∃ column name, schema q.columnId = some column
          ∧ column.kind = .datetime ∧ column.options.timeZone = some name
          ∧ c.zones (Text.trim name) = none ∧ e = .unknownZone column.id name) := by
  refine ⟨fun t ps op v => ⟨t.isUnsupported_apply_iff ps, ?_⟩, fun c schema ctx k f e h => ?_⟩
  · exact ⟨fun h => (t.isUnsupported_apply_iff ps).mp ⟨_, h, rfl⟩, t.apply_of_not_legal ps⟩
  obtain ⟨q, hq, hfault⟩ := c.predicate_error schema ctx h
  rcases Compiler.conditionFault?_eq_some hfault with ⟨column, -, rfl⟩ | hr
  · exact ⟨rfl, nofun⟩
  · exact ⟨hr.isUnsupported, fun hi => ⟨q, hq, hr.of_isInternal hi⟩⟩

/-- Days, in a zone that there is not. -/
def martianDays : Schema :=
  Schema.ofList
    [{ id := "due", dbName := "due", semanticType := .datetime,
       options := { timeZone := some "Mars/Olympus" } }]

/-- Rows that are due today. -/
def dueToday : Filter :=
  .leaf { columnId := "due", operator := "equals", value := .obj [("mode", .str "today")] }

/-- A number has no use for `within`, and the zone is found out when the filter is compiled. -/
theorem legality_agrees_martianDays :
    let score : Column := { id := "score", dbName := "score", semanticType := .number }
    let t : Target := ⟨.postgres, score, none, ⟨.utc, ⟨0, 0⟩⟩⟩
    let c := Compiler.mk .sqlite .bundled .utc "me" none
    t.apply (.startingAfter .postgres 0) .within .null
        = .error (.unsupported "score" .within "postgres.number")
      ∧ ∃ e q column name, c.predicate martianDays ⟨none, ⟨0, 0⟩⟩ 0 dueToday = .error e
        ∧ q ∈ dueToday.leaves ∧ martianDays q.columnId = some column
        ∧ e = .unknownZone column.id name := by
  intro score t c
  obtain ⟨hlegal, herror⟩ := legality_agrees
  obtain ⟨-, hinternal⟩ := herror c martianDays ⟨none, ⟨0, 0⟩⟩ 0 dueToday _ rfl
  obtain ⟨q, hq, column, name, hs, -, -, -, he⟩ := hinternal rfl
  exact ⟨(hlegal t _ .within .null).2.mpr (by decide), _, q, column, name, rfl, hq, hs, he⟩

end RowFilter
