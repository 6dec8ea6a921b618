import RowFilter.Calendar.Zone.Database
import RowFilter.Proofs.Refusal
import RowFilter.Proofs.Spelling
/-!
# Presence checks and their values

Whether a cell has a value is asked without a value to compare with, but a condition that asks it
may be given one. Nothing reads it but the search for the placeholder: where a user is to be named
and none asks, the condition is refused, and in all other cases its value has no part in what it
compiles to.

Results:
* `Compiler.requirement_of_asksPresence`: what is required is the same for all values.
* `Compiler.predicate_of_asksPresence`: what such a condition compiles to.
* `predicate_presence`: which values make a difference.
-/
namespace RowFilter

open Sql

/-! ## What is required -/

theorem Operator.takesDateFilter_of_isPresenceCheck {op : Operator}
    (h : op.isPresenceCheck = true) : op.takesDateFilter = false := by
  cases op <;> first | rfl | cases h

namespace Criterion

/-- Whether a criterion compares with nothing. -/
def IsPresence {n : Cardinality} : Criterion n → Prop
  | passes t | fails t => t = .isTrue
  | isEmpty | isNotEmpty => True
  | hasAll _ | hasExactly _ => False

/-- A presence check is read without its value, and at any time. -/
theorem read?_of_isPresenceCheck {op : Operator} (h : op.isPresenceCheck = true) (kind : CellKind)
    (n : Cardinality) (id : String) :
    ∃ criterion : Criterion n, criterion.IsPresence
      ∧ ∀ clock v, read? kind n ⟨id, op, clock⟩ v = some (.ok criterion) := by
  cases op with
  | isEmpty =>
    cases kind with
    | boolean => exact ⟨fails .isTrue, rfl, fun _ _ => rfl⟩
    | number | datetime => exact ⟨isEmpty, trivial, fun _ _ => rfl⟩
    | text | structured => cases n <;> exact ⟨isEmpty, trivial, fun _ _ => rfl⟩
  | isNotEmpty =>
    cases kind with
    | boolean => exact ⟨passes .isTrue, rfl, fun _ _ => rfl⟩
    | number | datetime => exact ⟨isNotEmpty, trivial, fun _ _ => rfl⟩
    | text | structured => cases n <;> exact ⟨isNotEmpty, trivial, fun _ _ => rfl⟩
  | _ => cases h

end Criterion

namespace Sql

variable {n : Cardinality} {q : Criterion n}

theorem Postgres.values_of_isPresence (h : q.IsPresence) (kind : CellKind) (t : Term) :
    ((Postgres.predicate kind t q).template .postgres).values = [] := by
  cases q with
  | passes x => cases h; cases n <;> rfl
  | fails x => cases h; cases n <;> rfl
  | isEmpty => cases n <;> cases kind <;> rfl
  | isNotEmpty => cases n <;> cases kind <;> rfl
  | hasAll ss => cases h
  | hasExactly ss => cases h

theorem Sqlite.values_of_isPresence (h : q.IsPresence) (kind : CellKind) (t : Term) :
    ((Sqlite.predicate kind t q).template .sqlite).values = [] := by
  cases q with
  | passes x => cases h; cases n <;> rfl
  | fails x => cases h; cases n <;> rfl
  | isEmpty => cases n <;> cases kind <;> rfl
  | isNotEmpty => cases n <;> cases kind <;> rfl
  | hasAll ss => cases h
  | hasExactly ss => cases h

end Sql

/-- Nothing is bound to ask for a presence. -/
theorem Requirement.values_of_isPresence {r : Requirement} (h : r.criterion.IsPresence)
    (d : Dialect) (table : Option String) :
    ((r.predicate d table).template d).values = [] := by
  cases d with
  | postgres => exact Postgres.values_of_isPresence h r.column.kind _
  | sqlite => exact Sqlite.values_of_isPresence h r.column.kind _

/-! ## Conditions that ask for a presence -/

namespace Condition

/-- Whether a user is to be named in a condition and none asks. -/
def missesActor (schema : Schema) (placeholder : String) (actor : Option String)
    (q : Condition) : Bool :=
  actor.isNone && (schema q.columnId).any fun column =>
    column.options.actorReference && q.value.mentions placeholder

/-- Whether a condition asks only for the presence of a value, wherever there is a column. -/
def AsksPresenceIn (schema : Schema) (q : Condition) : Prop :=
  ∀ column, schema q.columnId = some column → q.asksPresence column = true

variable {schema : Schema} {placeholder : String} {actor : Option String} {q : Condition}

theorem isPresenceCheck_of_resolve {column : Column} {op : Operator}
    (h : q.asksPresence column = true) (hop : q.resolve column = .ok op) :
    op.isPresenceCheck = true := by
  rw [asksPresence, (mem_legalOperators_of_resolve hop).1] at h
  exact h

/-- A presence check is never dropped, only refused. -/
theorem prepare_of_asksPresence (h : q.AsksPresenceIn schema) :
    (q.missesActor schema placeholder actor = true ∧ ∃ column, schema q.columnId = some column
      ∧ q.prepare schema placeholder actor = .error (.missingActor column.id))
    ∨ (q.missesActor schema placeholder actor = false
      ∧ ∃ v, q.prepare schema placeholder actor = .ok (some { q with value := v })) := by
  rw [prepare, missesActor]
  cases hs : schema q.columnId with
  | none => exact .inr ⟨Bool.and_false _, q.value, rfl⟩
  | some column =>
    have hkept (v : Json) : ({ q with value := v } : Condition).isVacuous column = false := by
      rw [isVacuous, Bool.and_eq_false_iff, Bool.not_eq_false']
      exact .inl (h column hs)
    show (_ ∧ ∃ column', some column = some column'
        ∧ (q.withActor column placeholder actor >>= _) = _)
      ∨ (_ ∧ ∃ v, (q.withActor column placeholder actor >>= _) = _)
    rw [Option.any_some]
    unfold withActor
    cases hm : column.options.actorReference && q.value.mentions placeholder with
    | false =>
      refine .inr ⟨Bool.and_false _, q.value, ?_⟩
      rw [if_neg Bool.false_ne_true]
      exact congrArg _ (if_neg (Bool.eq_false_iff.mp (hkept q.value)))
    | true =>
      cases actor with
      | none => exact .inl ⟨rfl, column, rfl, rfl⟩
      | some actor =>
        refine .inr ⟨rfl, q.value.substitute placeholder actor, ?_⟩
        exact congrArg _ (if_neg (Bool.eq_false_iff.mp (hkept _)))

end Condition

namespace Compiler

variable (c : Compiler) {schema : Schema} {q : Condition}

/-- What a presence check requires is the same for all values. -/
theorem requirement_of_asksPresence (h : q.AsksPresenceIn schema) (now : Instant) (v : Json) :
    c.requirement schema now { q with value := v } = c.requirement schema now q := by
  cases hs : schema q.columnId with
  | none => rw [requirement, requirement, hs]
  | some column =>
    have hs' : schema ({ q with value := v } : Condition).columnId = some column := hs
    rw [c.requirement_of_schema schema hs, c.requirement_of_schema schema hs']
    show (q.resolve column >>= _) = (q.resolve column >>= _)
    cases hop : q.resolve column with
    | error e => rfl
    | ok op =>
      have hpresence := Condition.isPresenceCheck_of_resolve (h column hs) hop
      obtain ⟨criterion, -, hread⟩ := Criterion.read?_of_isPresenceCheck hpresence column.kind
        column.cardinality column.id
      have hcheck (w : Json) : c.dateCheck now column op w = .ok () := by
        rw [dateCheck, Operator.takesDateFilter_of_isPresenceCheck hpresence]
        exact if_neg (by simp)
      show (c.dateCheck now column op v >>= _) = (c.dateCheck now column op q.value >>= _)
      rw [hcheck, hcheck]
      show (c.zone column >>= _) = (c.zone column >>= _)
      refine congrArg _ (funext fun zone => ?_)
      rw [hread, hread]

theorem isPresence_of_requirement {now : Instant} {r : Requirement}
    (h : q.AsksPresenceIn schema) (hr : c.requirement schema now q = .ok r) :
    r.criterion.IsPresence := by
  obtain ⟨op, clock, hs, hop, hread⟩ := c.requirement_ok schema hr
  obtain ⟨criterion, hpresence, hread'⟩ := Criterion.read?_of_isPresenceCheck
    (Condition.isPresenceCheck_of_resolve (h _ hs) hop) r.column.kind r.column.cardinality
    r.column.id
  rw [hread' clock q.value] at hread
  cases hread
  exact hpresence

/-- What becomes of a presence check that is given a value: an error if it is to name a user and
none asks, and else what it compiles to as it is. -/
theorem predicate_of_asksPresence (h : q.AsksPresenceIn schema) (ctx : Context) (k : Nat)
    (v : Json) :
    (({ q with value := v } : Condition).missesActor schema c.actorPlaceholder ctx.actor = true
      ∧ ∃ column, schema q.columnId = some column
        ∧ c.predicate schema ctx k (.leaf { q with value := v })
          = .error (.missingActor column.id))
    ∨ (({ q with value := v } : Condition).missesActor schema c.actorPlaceholder ctx.actor = false
      ∧ c.predicate schema ctx k (.leaf { q with value := v })
        = (c.requirement schema ctx.now q).map fun r => some (c.written k (.leaf r))) := by
  have hv : ({ q with value := v } : Condition).AsksPresenceIn schema := h
  rw [predicate_eq, requirements_leaf]
  rcases Condition.prepare_of_asksPresence hv with
    ⟨hmisses, column, hs, hprep⟩ | ⟨hmisses, w, hprep⟩
  · rw [hprep]
    exact .inl ⟨hmisses, column, hs, rfl⟩
  · rw [hprep]
    refine .inr ⟨hmisses, ?_⟩
    show ((c.requirement schema ctx.now { q with value := w }).map _).map _ = _
    rw [map_map, c.requirement_of_asksPresence h]
    rfl

end Compiler

/-- The values that a presence check is given make a difference only where a user is to be named
and none asks: then the check is refused for that, and else it is not. Two values compile to the
same, text or error, exactly if that is so for both or for neither. No check is dropped, and none
binds a parameter. -/
theorem predicate_presence (c : Compiler) {schema : Schema} {q : Condition}
    (h : q.AsksPresenceIn schema) (ctx : Context) (k : Nat) :
    let outcome (v : Json) := c.predicate schema ctx k (.leaf { q with value := v })
    let misses (v : Json) :=
      ({ q with value := v } : Condition).missesActor schema c.actorPlaceholder ctx.actor
    (∀ v w, outcome v = outcome w ↔ misses v = misses w)
    ∧ (∀ v, misses v = true ↔ ∃ id, outcome v = .error (.missingActor id))
    ∧ (∀ v, outcome v ≠ .ok none)
    ∧ ∀ v p, outcome v = .ok (some p) → p.params.values = [] := by
  intro outcome misses
  -- no value is read for `checked`, and two outcomes are compared through it
  let checked := (c.requirement schema ctx.now q).map fun r => some (c.written k (.leaf r))
  have houtcome (v : Json) : (misses v = true ∧ ∃ column, schema q.columnId = some column
      ∧ outcome v = .error (.missingActor column.id)) ∨ (misses v = false ∧ outcome v = checked) :=
    c.predicate_of_asksPresence h ctx k v
  have hchecked (id : String) : checked ≠ .error (.missingActor id) := fun he =>
    nomatch (c.refused_of_requirement (error_of_map he)).isMissingActor
  have hmisses (v : Json) : misses v = true ↔ ∃ id, outcome v = .error (.missingActor id) := by
    rcases houtcome v with ⟨hm, column, -, hv⟩ | ⟨hm, hv⟩
    · exact iff_of_true hm ⟨column.id, hv⟩
    · rw [hm, hv]
      exact iff_of_false nofun fun ⟨id, he⟩ => hchecked id he
  have hok (v : Json) (o : Option CompiledPredicate) (hv : outcome v = .ok o) :
      ∃ p, o = some p ∧ p.params.values = [] := by
    rcases houtcome v with ⟨-, column, -, hv'⟩ | ⟨-, hv'⟩ <;> rw [hv'] at hv
    · cases hv
    · obtain ⟨r, hr, rfl⟩ := ok_of_map hv
      refine ⟨_, rfl, ?_⟩
      rw [c.values_written, Tree.leaves, List.map_singleton, List.flatMap_singleton]
      exact Requirement.values_of_isPresence (c.isPresence_of_requirement h hr) _ _
  refine ⟨fun v w => ⟨fun heq => ?_, fun heq => ?_⟩, hmisses, fun v hv => ?_, fun v p hv => ?_⟩
  · rw [Bool.eq_iff_iff, hmisses, hmisses, heq]
  · rcases houtcome v with ⟨hm, column, hs, hv⟩ | ⟨hm, hv⟩ <;>
      rcases houtcome w with ⟨hm', column', hs', hw⟩ | ⟨hm', hw⟩
    · cases hs.symm.trans hs'
      exact hv.trans hw.symm
    · rw [hm, hm'] at heq
      cases heq
    · rw [hm, hm'] at heq
      cases heq
    · exact hv.trans hw.symm
  · obtain ⟨p, hp, -⟩ := hok v none hv
    cases hp
  · obtain ⟨_, ⟨⟩, hp⟩ := hok v (some p) hv
    exact hp

/-- A person to a row. -/
def singleOwner : Column :=
  { id := "owner", dbName := "owner", semanticType := .structured,
    options := { actorReference := true } }

def owners : Schema := Schema.ofList [singleOwner]

/-- Rows without an owner. -/
def unowned (v : Json) : Condition := { columnId := "owner", operator := "isEmpty", value := v }

theorem asksPresenceIn_unowned : (unowned .null).AsksPresenceIn owners := by
  intro column hs
  cases hs
  rfl

/-- Without a user, one who is named by an id is as good as no value, and one who is named by the
placeholder is missed. -/
theorem predicate_presence_unowned :
    let c := Compiler.mk .sqlite .bundled .utc "me" none
    let outcome (v : Json) := c.predicate owners ⟨none, ⟨0, 0⟩⟩ 0 (.leaf (unowned v))
    (unowned .null).AsksPresenceIn owners
      ∧ outcome (.obj [("id", .str "ann")]) = outcome .null
      ∧ (∀ p, outcome .null = .ok (some p) → p.params.values = [])
      ∧ ∃ id, outcome (.str "me") = .error (.missingActor id) := by
  intro c outcome
  obtain ⟨hsame, hmisses, -, hvalues⟩ :=
    predicate_presence c asksPresenceIn_unowned ⟨none, ⟨0, 0⟩⟩ 0
  exact ⟨asksPresenceIn_unowned, (hsame _ _).mpr rfl, hvalues _, (hmisses _).mp rfl⟩

/-- Without a user, the placeholder is missed although nothing is compared with it. -/
theorem not_predicate_presence_same :
    let c := Compiler.mk .sqlite .bundled .utc "me" none
    ¬ ∀ v w, c.predicate owners ⟨none, ⟨0, 0⟩⟩ 0 (.leaf (unowned v))
      = c.predicate owners ⟨none, ⟨0, 0⟩⟩ 0 (.leaf (unowned w)) := by
  intro c hall
  have hmissed : c.predicate owners ⟨none, ⟨0, 0⟩⟩ 0 (.leaf (unowned (.str "me")))
      = .error (.missingActor "owner") := rfl
  obtain ⟨p, hp⟩ : ∃ p, c.predicate owners ⟨none, ⟨0, 0⟩⟩ 0 (.leaf (unowned .null))
      = .ok (some p) := ⟨_, rfl⟩
  have hsame := hall (.str "me") .null
  rw [hmissed, hp] at hsame
  cases hsame

end RowFilter
