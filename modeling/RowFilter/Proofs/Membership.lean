import Mathlib.Data.Finset.Card
import Mathlib.Data.List.ReduceOption
import RowFilter.Proofs.Complement
/-!
# Lists as sets

`allOf` asks that every text of its operand is a member of the list in a cell, and `exactly` that
the list has these members and no others. One dialect counts the different members it finds, the
other compares arrays; both come out at inclusion and equality of two finite sets, so neither the
order nor the repetitions of either list matter.

The members are those of the elements: a text is its own, an object has its id as a text, and
an object without an id has none. `Engine.KnowsSets` is what is assumed of a database of each
dialect.

Results:
* `Sqlite.eval_countsAll`: as many different members are in a list as it is long if all of it is.
* `Sqlite.eval_noElement_outside`: no element is outside a list or without a member.
* `Postgres.eval_members`: the array of the members.
* `set_operators`: what both operators are true of.
-/
namespace RowFilter

open Sql

theorem Json.nodup_distinct (ss : List String) : (distinct ss).Nodup := by
  induction ss with
  | nil => exact .nil
  | cons s ss ih =>
    rw [distinct, List.nodup_cons]
    exact ⟨by simp, ih.filter _⟩

theorem Json.toFinset_distinct (ss : List String) : (distinct ss).toFinset = ss.toFinset := by
  ext s
  simp [mem_distinct]

/-- A list of texts is not empty. -/
theorem Json.ne_nil_of_textListOperand {v : Json} {ss : List String}
    (h : v.textListOperand = .ok ss) : ss ≠ [] := by
  rintro rfl
  cases v with
  | arr items =>
    obtain ⟨us, -, h⟩ := ok_of_bind h
    cases us <;> cases h
  | _ => cases h

namespace Sql

/-! ## Members -/

/-- The text that an element of a list counts as, if there is one. -/
inductive IsMember : CellKind → Json → Option String → Prop
  | text (s : String) : IsMember .text (.str s) (some s)
  | named {fields : List (String × Json)} {s : String}
    (h : Json.find? "id" fields = some (.str s)) : IsMember .structured (.obj fields) (some s)
  | numbered {fields : List (String × Json)} {i : Int}
    (h : Json.find? "id" fields = some (.int i)) :
    IsMember .structured (.obj fields) (some (Json.int i).text)
  | nameless {fields : List (String × Json)} (h : Json.find? "id" fields = none) :
    IsMember .structured (.obj fields) none

/-- A cell with a list, and what its elements count as. NULL has no elements. -/
inductive Datum.HasMembers (kind : CellKind) : Datum → List (Option String) → Prop
  | null : HasMembers kind none []
  | array {items : List Json} {xs : List (Option String)}
    (h : List.Forall₂ (IsMember kind) items xs) : HasMembers kind (some (.json (.arr items))) xs

/-- The set of the members. -/
def memberSet (xs : List (Option String)) : Finset String := xs.reduceOption.toFinset

theorem mem_memberSet {a : String} {xs : List (Option String)} :
    a ∈ memberSet xs ↔ some a ∈ xs := by
  rw [memberSet, List.mem_toFinset, List.reduceOption_mem_iff]

/-- Every element counts as one of several texts. -/
theorem forall_mem_iff {xs : List (Option String)} {vs : List String} :
    (∀ x ∈ xs, ∃ v ∈ vs, x = some v) ↔ memberSet xs ⊆ vs.toFinset ∧ none ∉ xs := by
  constructor
  · intro h
    refine ⟨fun a ha => ?_, fun hnone => ?_⟩
    · obtain ⟨v, hv, hav⟩ := h _ (mem_memberSet.mp ha)
      cases hav
      exact List.mem_toFinset.mpr hv
    · obtain ⟨_, _, hno⟩ := h none hnone
      cases hno
  · rintro ⟨hsub, hnone⟩ x hx
    cases x with
    | none => exact absurd hx hnone
    | some a => exact ⟨a, List.mem_toFinset.mp (hsub (mem_memberSet.mpr hx)), rfl⟩

/-- What an element counts as, as a value of the database. -/
def Datum.ofMember (x : Option String) : Datum := x.map .text

/-- The array of what elements count as. -/
def Datum.ofMembers (xs : List (Option String)) : Datum :=
  some (.json (.arr (xs.map fun x => x.elim .null .str)))

/-- Whether a value is one of several texts. -/
def Engine.isAmong (e : Engine) (x : Datum) (vs : List String) : Truth :=
  .any (vs.map fun v => e.compare .eq x (some (.text v)))

/-! ## What is assumed of the databases -/

/-- What is assumed of SQLite. -/
structure Engine.SqliteSets (e : Engine) : Prop extends e.Lawful where
  compare_text : ∀ a b, e.compare .eq (some (.text a)) (some (.text b)) = .ofBool (a = b)
  /-- NULL is listed as no element, an array as its elements. -/
  rows_null : e.rows .each none = []
  rows_array : ∀ items, e.rows .each (some (.json (.arr items))) = items.map eachElement
  /-- A field keeps its type; one that is missing is NULL. -/
  field_text : ∀ fields s, Json.find? "id" fields = some (.str s) →
    e.field (some (.json (.obj fields))) .id = some (.text s)
  field_int : ∀ fields i, Json.find? "id" fields = some (.int i) →
    e.field (some (.json (.obj fields))) .id = some (.int i)
  field_missing : ∀ fields, Json.find? "id" fields = none →
    e.field (some (.json (.obj fields))) .id = none
  asText_null : e.asText none = none
  asText_text : ∀ s, e.asText (some (.text s)) = some (.text s)
  asText_int : ∀ i, e.asText (some (.int i)) = some (.text (Json.int i).text)
  /-- Different texts are counted once each, NULLs not at all. -/
  countDistinct_texts : ∀ xs, e.countDistinct (xs.map Datum.ofMember) = (memberSet xs).card

/-- What is assumed of PostgreSQL. -/
structure Engine.PostgresSets (e : Engine) : Prop where
  /-- NULL is listed as no element, an array as its elements. -/
  rows_null : e.rows .elements none = []
  rows_array : ∀ items, (e.rows .elements (some (.json (.arr items)))).map Element.value
    = items.map fun j => some (.json j)
  /-- A field is given as text; one that is missing is NULL. -/
  field_text : ∀ fields s, Json.find? "id" fields = some (.str s) →
    e.field (some (.json (.obj fields))) .id = some (.text s)
  field_int : ∀ fields i, Json.find? "id" fields = some (.int i) →
    e.field (some (.json (.obj fields))) .id = some (.text (Json.int i).text)
  field_missing : ∀ fields, Json.find? "id" fields = none →
    e.field (some (.json (.obj fields))) .id = none
  /-- The array of no values is NULL. -/
  aggregate_nil : e.aggregate [] = none
  aggregate_texts : ∀ xs, xs ≠ [] → e.aggregate (xs.map Datum.ofMember) = .ofMembers xs
  hasAll_null : ∀ ss, e.hasAll none ss = .unknown
  hasAll_members : ∀ xs ss, e.hasAll (.ofMembers xs) ss = .ofBool (ss.toFinset ⊆ memberSet xs)
  contains_null : ∀ ss, e.contains none ss = .unknown
  contains_members : ∀ xs ss, e.contains (.ofMembers xs) ss = .ofBool (ss.toFinset ⊆ memberSet xs)
  containedIn_null : ∀ ss, e.containedIn none ss = .unknown
  containedIn_members : ∀ xs ss,
    e.containedIn (.ofMembers xs) ss = .ofBool (∀ x ∈ xs, ∃ v ∈ ss, x = some v)

/-- What is assumed of the database of a dialect. -/
def Engine.KnowsSets (d : Dialect) (e : Engine) : Prop :=
  match d with
  | .postgres => e.PostgresSets
  | .sqlite => e.SqliteSets

/-! ## Counting -/

namespace Sqlite

variable {e : Engine} {kind : CellKind} {s : Scope} {t : Term} {xs : List (Option String)}

variable (he : e.SqliteSets)

include he

/-- What an element is compared as. -/
theorem eval_identity {j : Json} {x : Option String} (h : IsMember kind j x)
    (row : Option String → String → Datum) :
    (identity kind .element).eval e ⟨row, eachElement j⟩ = .ofMember x := by
  cases h with
  | text s => rfl
  | @named fields s h =>
    show e.asText (e.field (some (.json (.obj fields))) .id) = _
    rw [he.field_text _ _ h, he.asText_text]
    rfl
  | @numbered fields i h =>
    show e.asText (e.field (some (.json (.obj fields))) .id) = _
    rw [he.field_int _ _ h, he.asText_int]
    rfl
  | @nameless fields h =>
    show e.asText (e.field (some (.json (.obj fields))) .id) = _
    rw [he.field_missing _ h, he.asText_null]
    rfl

/-- What the elements of a list are compared as. -/
theorem map_eval_identity {c : Datum} (hc : c.HasMembers kind xs)
    (row : Option String → String → Datum) :
    (e.rows .each c).map (fun x => (identity kind .element).eval e ⟨row, x⟩)
      = xs.map .ofMember := by
  cases hc with
  | null => rw [he.rows_null]; rfl
  | array h =>
    rw [he.rows_array, List.map_map]
    induction h with
    | nil => rfl
    | cons hj _ ih =>
      rw [List.map_cons, List.map_cons, ih]
      exact congrArg (· :: _) (eval_identity he hj row)

theorem isAmong_text (a : String) (vs : List String) :
    e.isAmong (some (.text a)) vs = .ofBool (a ∈ vs) := by
  have hany : (vs.any fun v => a = v) = decide (a ∈ vs) :=
    List.any_eq.trans (decide_eq_decide.mpr (by simp))
  simp only [Engine.isAmong, he.compare_text, Truth.any_map_ofBool, hany]

/-- NULL is not one of several texts, and not known to be none of them. -/
theorem isAmong_null (vs : List String) : e.isAmong none vs ≠ .yes := by
  have hunknown (v : String) : e.compare .eq none (some (.text v)) = .unknown :=
    (he.compare_eq_unknown .eq _ _).mpr (.inl rfl)
  simp only [Engine.isAmong, hunknown, ne_eq, Truth.any_eq_yes]
  simp

/-- What an element counts as is one of several texts if it is among them. -/
theorem isAmong_ofMember (x : Option String) (vs : List String) :
    e.isAmong (.ofMember x) vs = .yes ↔ ∃ v ∈ vs, x = some v := by
  cases x with
  | none => simpa [Datum.ofMember] using isAmong_null he vs
  | some a => simp [Datum.ofMember, isAmong_text he]

/-- A test for NULL lets what is no text pass as well. -/
theorem eval_outsideList {t : Term} {x : Option String} (ht : t.eval e s = .ofMember x)
    (vs : List String) :
    (Predicate.outsideList t vs).eval .sqlite e s = .yes ↔ ¬ ∃ v ∈ vs, x = some v := by
  show (t.isNull e s).or (e.isAmong (t.eval e s) vs).not = .yes ↔ _
  rw [Truth.or_eq_yes, Term.isNull, ht]
  cases x with
  | none => simp [Datum.ofMember]
  | some a =>
    rw [Datum.ofMember, Option.map_some, isAmong_text he, Truth.not_ofBool]
    simp

variable {array : Term} (hc : (array.eval e s).HasMembers kind xs)

include hc

/-- The members found in a list. -/
theorem map_filter_isOneOf (vs : List String) :
    ((e.rows .each (array.eval e s)).filter fun x =>
        (identity kind .element).isOneOf e ⟨s.row, x⟩ vs = .yes).map
          (fun x => (identity kind .element).eval e ⟨s.row, x⟩)
      = (xs.filter fun x => ∃ v ∈ vs, x = some v).map Datum.ofMember := by
  -- whether an element is found shows in what it is compared as
  have hfound (x : Option String) :
      decide (∃ v ∈ vs, x = some v) = decide (e.isAmong (.ofMember x) vs = .yes) :=
    decide_eq_decide.mpr (isAmong_ofMember he x vs).symm
  simp only [hfound]
  calc
    _ = ((e.rows .each (array.eval e s)).map fun x =>
          (identity kind .element).eval e ⟨s.row, x⟩).filter (e.isAmong · vs = .yes) :=
      List.filter_map.symm
    _ = (xs.map Datum.ofMember).filter (e.isAmong · vs = .yes) := by rw [map_eval_identity he hc]
    _ = _ := List.filter_map

/-- The different members that are in a list are as many as it is long if all of the list are
members. -/
theorem eval_countsAll {vs : List String} (hvs : vs.Nodup) :
    (Predicate.countsAll (identity kind .element) array vs).eval .sqlite e s = .yes
      ↔ vs.toFinset ⊆ memberSet xs := by
  have hset : memberSet (xs.filter fun x => ∃ v ∈ vs, x = some v) = vs.toFinset ∩ memberSet xs := by
    ext a
    simp [mem_memberSet, and_comm]
  show e.compare .eq (some (.int (e.countDistinct _))) (some (.int vs.length)) = .yes ↔ _
  rw [map_filter_isOneOf he hc, he.countDistinct_texts, hset, he.compare_int, Truth.ofBool_eq_yes,
    ← List.toFinset_card_of_nodup hvs]
  simp only [Comparison.holds, Int.natCast_inj, decide_eq_true_eq]
  -- a part of the list that is as large as the list is all of it
  constructor
  · intro hcard
    exact Finset.inter_eq_left.mp (Finset.eq_of_subset_of_card_le Finset.inter_subset_left hcard.ge)
  · intro hsub
    rw [Finset.inter_eq_left.mpr hsub]

/-- No element is outside a list or without a member if the members are in the list. -/
theorem eval_noElement_outside (vs : List String) :
    (Predicate.noElement .each array (.outsideList (identity kind .element) vs)).eval .sqlite e s
        = .yes
      ↔ memberSet xs ⊆ vs.toFinset ∧ none ∉ xs := by
  have hall : (∀ x ∈ e.rows .each (array.eval e s),
        (Predicate.outsideList (identity kind .element) vs).eval .sqlite e ⟨s.row, x⟩ ≠ .yes)
      ↔ ∀ x ∈ xs, ∃ v ∈ vs, x = some v := by
    have hmap := map_eval_identity he hc s.row
    constructor
    · intro h x hx
      obtain ⟨y, hy, hyx⟩ := List.mem_map.mp (hmap ▸ List.mem_map_of_mem hx)
      exact not_not.mp (mt (eval_outsideList he hyx vs).mpr (h y hy))
    · intro h y hy
      obtain ⟨x, hx, hyx⟩ := List.mem_map.mp (hmap ▸ List.mem_map_of_mem hy)
      exact fun hout => (eval_outsideList he hyx.symm vs).mp hout (h x hx)
  show (Truth.ofBool (List.any _ _)).not = .yes ↔ _
  rw [Truth.not_ofBool, Truth.ofBool_eq_yes, Bool.not_eq_true', List.any_eq_false]
  simp only [decide_eq_true_eq]
  rw [hall, forall_mem_iff]

/-- What `exactly` compiles to. -/
theorem eval_sameElements {vs : List String} (hvs : vs.Nodup) :
    (sameElements kind array vs).eval .sqlite e s = .yes
      ↔ memberSet xs = vs.toFinset ∧ none ∉ xs := by
  show ((Predicate.countsAll _ _ _).eval _ e s).and ((Predicate.noElement _ _ _).eval _ e s) = _ ↔ _
  rw [Truth.and_eq_yes, eval_countsAll he hc hvs, eval_noElement_outside he hc, ← and_assoc,
    Finset.Subset.antisymm_iff, and_comm (a := vs.toFinset ⊆ _)]

end Sqlite

/-! ## Comparing arrays -/

namespace Postgres

variable {e : Engine} {kind : CellKind} {s : Scope} {xs : List (Option String)}

variable (he : e.PostgresSets)

include he

/-- The ids of the elements of an array. -/
theorem map_field_id {items : List Json} (h : List.Forall₂ (IsMember .structured) items xs) :
    (e.rows .elements (some (.json (.arr items)))).map (fun x => e.field x.value .id)
      = xs.map Datum.ofMember := by
  have hvalues := congrArg (List.map (e.field · .id)) (he.rows_array items)
  rw [List.map_map, List.map_map] at hvalues
  refine hvalues.trans ?_
  clear hvalues
  induction h with
  | nil => rfl
  | cons hj _ ih =>
    rw [List.map_cons, List.map_cons, ih]
    refine congrArg (· :: _) ?_
    cases hj with
    | named h => exact he.field_text _ _ h
    | numbered h => exact he.field_int _ _ h
    | nameless h => exact he.field_missing _ h

variable {t : Term} (hc : (t.eval e s).HasMembers kind xs)

include hc

/-- The array of the members; there may be none for a list without elements. -/
theorem eval_members :
    (members kind t).eval e s = none ∧ xs = [] ∨ (members kind t).eval e s = .ofMembers xs := by
  by_cases hk : kind = .structured
  · subst hk
    show e.aggregate ((e.rows .elements (t.eval e s)).map fun x => e.field x.value .id) = none ∧ _
      ∨ e.aggregate _ = _
    generalize t.eval e s = c at hc ⊢
    cases hc with
    | null => exact .inl ⟨by rw [he.rows_null, List.map_nil, he.aggregate_nil], rfl⟩
    | array h =>
      rw [map_field_id he h]
      by_cases hxs : xs = []
      · exact .inl ⟨by rw [hxs, List.map_nil, he.aggregate_nil], hxs⟩
      · exact .inr (he.aggregate_texts xs hxs)
  · have hmembers : members kind t = t := by
      cases kind <;> first | rfl | exact absurd rfl hk
    rw [hmembers]
    generalize t.eval e s = c at hc ⊢
    cases hc with
    | null => exact .inl ⟨rfl, rfl⟩
    | @array items xs h =>
      -- the elements are texts, so that the array is that of its members already
      have hitems : items = xs.map fun x => x.elim .null .str := by
        induction h with
        | nil => rfl
        | cons hj _ ih =>
          rw [List.map_cons, ← ih]
          cases hj with
          | text s => rfl
          | named => exact absurd rfl hk
          | numbered => exact absurd rfl hk
          | nameless => exact absurd rfl hk
      exact .inr (by rw [hitems, Datum.ofMembers])

variable {vs : List String} (hvs : vs ≠ [])

include hvs

omit he hc in
/-- Of a list without members no text is one. -/
theorem not_subset_memberSet_nil : ¬ vs.toFinset ⊆ memberSet [] := by
  intro hsub
  exact hvs (List.toFinset_eq_empty_iff vs |>.mp (Finset.subset_empty.mp hsub))

/-- What `allOf` compiles to. -/
theorem eval_hasAllMembers :
    (Predicate.hasAllMembers (members kind t) vs).eval .postgres e s = .yes
      ↔ vs.toFinset ⊆ memberSet xs := by
  show e.hasAll ((members kind t).eval e s) vs = .yes ↔ _
  obtain ⟨hnull, hxs⟩ | harray := eval_members he hc
  · rw [hnull, he.hasAll_null, hxs]
    simpa using not_subset_memberSet_nil hvs
  · rw [harray, he.hasAll_members, Truth.ofBool_eq_yes, decide_eq_true_eq]

/-- What `exactly` compiles to. -/
theorem eval_sameMembers :
    (Predicate.sameMembers (members kind t) vs).eval .postgres e s = .yes
      ↔ memberSet xs = vs.toFinset ∧ none ∉ xs := by
  show (e.contains ((members kind t).eval e s) vs).and
    (e.containedIn ((members kind t).eval e s) vs) = .yes ↔ _
  rw [Truth.and_eq_yes]
  obtain ⟨hnull, hxs⟩ | harray := eval_members he hc
  · have hempty := not_subset_memberSet_nil hvs
    rw [hnull, he.contains_null, hxs]
    refine iff_of_false (by simp) fun h => hempty h.1.symm.subset
  · rw [harray, he.contains_members, he.containedIn_members, Truth.ofBool_eq_yes,
      Truth.ofBool_eq_yes, decide_eq_true_eq, decide_eq_true_eq, forall_mem_iff, ← and_assoc,
      Finset.Subset.antisymm_iff, and_comm (a := vs.toFinset ⊆ _)]

end Postgres

end Sql

/-! ## The operators -/

namespace Target

variable (t : Target)

theorem predicate_of_read {n : Cardinality} (hn : t.column.cardinality = n) {op : Operator}
    {v : Json} {q : Except FilterError (Criterion n)}
    (h : Criterion.read? t.column.kind n ⟨t.column.id, op, t.clock⟩ v = some q) :
    t.predicate op v = q.map t.ofCriterion := by
  subst hn
  rw [predicate, h]

/-- The predicate of an operator that only lists of texts have. -/
theorem predicate_of_readTexts (hn : t.column.cardinality = .multi)
    (hk : t.column.kind = .text ∨ t.column.kind = .structured) {op : Operator} {v : Json}
    {f : List String → Criterion .multi}
    (h : Criterion.readTexts? ⟨t.column.id, op, t.clock⟩ v
      = some ((Criterion.Site.operand ⟨t.column.id, op, t.clock⟩ v.textListOperand).map f)) :
    t.predicate op v
      = (v.textListOperand.mapError (.malformedValue t.column.id op)).map
          fun ss => t.ofCriterion (f ss) := by
  refine (t.predicate_of_read hn (Eq.trans ?_ h)).trans (map_map _ _ _)
  rcases hk with hk | hk <;> rw [hk] <;> rfl

/-- What the predicates of both set criteria are true of. -/
theorem eval_setCriteria {e : Engine} {s : Scope} {xs : List (Option String)}
    (he : e.KnowsSets t.dialect)
    (hc : Datum.HasMembers t.column.kind (s.row t.table t.column.dbName) xs) {ss : List String}
    (hss : ss ≠ []) :
    ((t.ofCriterion (.hasAll ss)).eval t.dialect e s = .yes ↔ ss.toFinset ⊆ memberSet xs)
      ∧ ((t.ofCriterion (.hasExactly ss)).eval t.dialect e s = .yes
        ↔ memberSet xs = ss.toFinset ∧ none ∉ xs) := by
  have hterm : Datum.HasMembers t.column.kind (t.term.eval e s) xs := hc
  have hnodup := Json.nodup_distinct ss
  unfold ofCriterion
  cases hd : t.dialect with
  | sqlite =>
    rw [hd] at he
    rw [← Json.toFinset_distinct]
    exact ⟨Sqlite.eval_countsAll he hterm hnodup, Sqlite.eval_sameElements he hterm hnodup⟩
  | postgres =>
    rw [hd] at he
    have hdistinct : Json.distinct ss ≠ [] := by
      rw [← List.toFinset_nonempty_iff, Json.toFinset_distinct]
      exact List.toFinset_nonempty_iff ss |>.mpr hss
    have hexactly := Postgres.eval_sameMembers he hterm hdistinct
    rw [Json.toFinset_distinct] at hexactly
    exact ⟨Postgres.eval_hasAllMembers he hterm hss, hexactly⟩

/-- The set operators are compiled for the same values, those that are lists of one or more texts.
Where they are, `allOf` is true of a cell if every text of the list is a member of it, and `exactly`
if the texts and the members are the same set and every element has a member; neither is true
of NULL or an empty list. Only sets are compared: the order and the repetitions of the texts and
of the elements make no difference, and neither does the dialect. -/
theorem set_operators (hn : t.column.cardinality = .multi)
    (hk : t.column.kind = .text ∨ t.column.kind = .structured) (ps : Params) (v : Json) :
    (∃ x, v.textListOperand = .error x
      ∧ t.apply ps .allOf v = .error (.malformedValue t.column.id .allOf x)
      ∧ t.apply ps .exactly v = .error (.malformedValue t.column.id .exactly x))
    ∨ ∃ ss p q, v.textListOperand = .ok ss
      ∧ t.predicate .allOf v = .ok p ∧ t.predicate .exactly v = .ok q
      ∧ t.apply ps .allOf v = .ok (ps.add (p.template t.dialect))
      ∧ t.apply ps .exactly v = .ok (ps.add (q.template t.dialect))
      ∧ ∀ (e : Engine) (s : Scope) (xs : List (Option String)), e.KnowsSets t.dialect →
        Datum.HasMembers t.column.kind (s.row t.table t.column.dbName) xs →
          (p.eval t.dialect e s = .yes ↔ ss.toFinset ⊆ memberSet xs)
          ∧ (q.eval t.dialect e s = .yes ↔ memberSet xs = ss.toFinset ∧ none ∉ xs)
          ∧ (xs = [] → p.eval t.dialect e s ≠ .yes ∧ q.eval t.dialect e s ≠ .yes) := by
  have hall : t.predicate .allOf v = _ :=
    t.predicate_of_readTexts hn hk (f := .hasAll) rfl
  have hexactly : t.predicate .exactly v = _ :=
    t.predicate_of_readTexts hn hk (f := .hasExactly) rfl
  unfold apply
  rw [hall, hexactly]
  cases hv : v.textListOperand with
  | error x => exact .inl ⟨x, rfl, rfl, rfl⟩
  | ok ss =>
    have hss := Json.ne_nil_of_textListOperand hv
    refine .inr ⟨ss, _, _, rfl, rfl, rfl, rfl, rfl, fun e s xs he hc => ?_⟩
    obtain ⟨hp, hq⟩ := t.eval_setCriteria he hc hss
    refine ⟨hp, hq, ?_⟩
    rintro rfl
    have hnone := Postgres.not_subset_memberSet_nil hss
    exact ⟨mt hp.mp hnone, mt hq.mp fun h => hnone h.1.symm.subset⟩

end Target

/-! ## Databases of lists -/

namespace Sql

/-- The text that a value is. -/
def Datum.text? : Datum → Option String
  | some (.text s) => some s
  | _ => none

/-- A database that lists the elements of arrays, takes the fields of objects and counts texts as
SQLite does. -/
def sqliteLists : Engine :=
  { textDatabase with
    field := fun
      | some (.json (.obj fields)), key =>
        match Json.find? key.name fields with
        | some j => (eachElement j).value
        | none => none
      | _, _ => none
    asText := fun
      | some (.int i) => some (.text (Json.int i).text)
      | x => x
    countDistinct := fun xs => (memberSet (xs.map Datum.text?)).card }

@[simp] theorem text?_comp_ofMember : Datum.text? ∘ Datum.ofMember = id := by
  funext x
  cases x <;> rfl

theorem sqliteSets_sqliteLists : sqliteLists.SqliteSets where
  toLawful := ⟨lawful_textDatabase.compare_eq_unknown, lawful_textDatabase.compare_int,
    lawful_textDatabase.arrayLength_null, lawful_textDatabase.arrayLength_array⟩
  compare_text a b := by
    show Truth.ofBool (valuesCompare .eq (.text a) (.text b)) = _
    simp [valuesCompare]
  rows_null := rfl
  rows_array items := rfl
  field_text fields s h := by simp [sqliteLists, Field.name, h, eachElement]
  field_int fields i h := by simp [sqliteLists, Field.name, h, eachElement]
  field_missing fields h := by simp [sqliteLists, Field.name, h]
  asText_null := rfl
  asText_text s := rfl
  asText_int i := rfl
  countDistinct_texts xs := by simp [sqliteLists]

/-- The text that an element is. -/
def elementText? : Json → Option String
  | .str s => some s
  | _ => none

/-- A database that lists the elements of arrays, takes the fields of objects as text and compares
arrays with texts as PostgreSQL does. -/
def postgresLists : Engine :=
  { textDatabase with
    field := fun
      | some (.json (.obj fields)), key =>
        match Json.find? key.name fields with
        | some (.str s) => some (.text s)
        | some .null | none => none
        | some j => some (.text j.text)
      | _, _ => none
    rows := fun
      | .elements, some (.json (.arr items)) => items.map fun j => ⟨some (.json j), none⟩
      | _, _ => []
    aggregate := fun
      | [] => none
      | xs => .ofMembers (xs.map Datum.text?)
    hasAll := fun
      | some (.json (.arr items)), ss =>
        .ofBool (ss.toFinset ⊆ memberSet (items.map elementText?))
      | _, _ => .unknown
    contains := fun
      | some (.json (.arr items)), ss =>
        .ofBool (ss.toFinset ⊆ memberSet (items.map elementText?))
      | _, _ => .unknown
    containedIn := fun
      | some (.json (.arr items)), ss =>
        .ofBool (∀ x ∈ items.map elementText?, ∃ v ∈ ss, x = some v)
      | _, _ => .unknown }

@[simp] theorem elementText?_elim (x : Option String) :
    elementText? (x.elim .null .str) = x := by
  cases x <;> rfl

theorem postgresSets_postgresLists : postgresLists.PostgresSets where
  rows_null := rfl
  rows_array items := by
    show (items.map fun j => (⟨some (.json j), none⟩ : Element)).map Element.value = _
    rw [List.map_map]
    rfl
  field_text fields s h := by simp [postgresLists, Field.name, h]
  field_int fields i h := by simp [postgresLists, Field.name, h]
  field_missing fields h := by simp [postgresLists, Field.name, h]
  aggregate_nil := rfl
  aggregate_texts xs hxs := by
    cases xs with
    | nil => exact absurd rfl hxs
    | cons x xs =>
      show Datum.ofMembers (((x :: xs).map Datum.ofMember).map Datum.text?) = _
      rw [List.map_map, text?_comp_ofMember, List.map_id]
  hasAll_null ss := rfl
  hasAll_members xs ss := by simp [postgresLists, Datum.ofMembers, Function.comp_def]
  contains_null ss := rfl
  contains_members xs ss := by simp [postgresLists, Datum.ofMembers, Function.comp_def]
  containedIn_null ss := rfl
  containedIn_members xs ss := by simp [postgresLists, Datum.ofMembers]

end Sql

/-- A list of owners, which are objects. -/
def ownerColumn : Column :=
  { id := "owners", dbName := "owners", semanticType := .structured, isMultiValued := true }

/-- Two owners, one of them twice and with a number as its id: `exactly` is true for the texts in
any order, and no longer when an owner without an id is added, which `allOf` does not mind. -/
theorem set_operators_owners :
    let owners : List Json := [.obj [("id", .int 7)], .obj [("title", .str "A"), ("id", .str "ann")],
      .obj [("id", .int 7)]]
    let v : Json := .arr [.str "ann", .str "7", .str "ann"]
    let row (items : List Json) : Scope := ⟨fun _ _ => some (.json (.arr items)), ⟨none, none⟩⟩
    let holds (d : Dialect) (e : Engine) : Prop :=
      ∃ p q, Target.predicate ⟨d, ownerColumn, none, ⟨.utc, ⟨0, 0⟩⟩⟩ .allOf v = .ok p
        ∧ Target.predicate ⟨d, ownerColumn, none, ⟨.utc, ⟨0, 0⟩⟩⟩ .exactly v = .ok q
        ∧ p.eval d e (row owners) = .yes ∧ q.eval d e (row owners) = .yes
        ∧ p.eval d e (row (.obj [] :: owners)) = .yes ∧ q.eval d e (row (.obj [] :: owners)) ≠ .yes
    holds .sqlite sqliteLists ∧ holds .postgres postgresLists := by
  intro owners v row holds
  have hseven : IsMember .structured (.obj [("id", .int 7)]) (some "7") := by
    have htext : (Json.int 7).text = "7" := by decide
    exact htext ▸ .numbered rfl
  have hmembers : List.Forall₂ (IsMember .structured) owners [some "7", some "ann", some "7"] :=
    .cons hseven (.cons (.named rfl) (.cons hseven .nil))
  have hcase (d : Dialect) (e : Engine) (he : e.KnowsSets d) : holds d e := by
    rcases Target.set_operators ⟨d, ownerColumn, none, ⟨.utc, ⟨0, 0⟩⟩⟩ rfl (.inr rfl)
      (.startingAfter d 0) v with ⟨x, hx, -⟩ | ⟨ss, p, q, hss, hp, hq, -, -, hsets⟩
    · cases hx
    · cases hss
      obtain ⟨hall, hexactly, -⟩ := hsets e (row owners) _ he (.array hmembers)
      obtain ⟨hall', hexactly', -⟩ :=
        hsets e (row (.obj [] :: owners)) _ he (.array (.cons (.nameless rfl) hmembers))
      exact ⟨p, q, hp, hq, hall.mpr (by decide), hexactly.mpr (by decide), hall'.mpr (by decide),
        mt hexactly'.mp (by decide)⟩
  exact ⟨hcase .sqlite sqliteLists sqliteSets_sqliteLists,
    hcase .postgres postgresLists postgresSets_postgresLists⟩

end RowFilter
