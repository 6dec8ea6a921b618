import RowFilter.Calendar.Zone.Database
import RowFilter.Proofs.Form
import RowFilter.Proofs.Vocabulary
/-!
# Placeholders and parameters

A compiled filter has a placeholder for every value it binds, and in the places and the order
in which it binds them. `Fragment`s are what its conditions write, one after the other; only
parentheses and conjunctions stand between them.

Results:
* `woven_plan`: the tokens of a plan are the fragments of its conditions in document order.
* `bindMarks_tokens`: reading question marks as the values in turn puts each value where its
  template has it.
* `numbers_tokens`: the numbered placeholders of a template count up from those in use.
* `placeholders_agree`: both for the predicate of a whole filter.
-/
namespace RowFilter

open Sql

namespace Sql

/-! ## Fragments -/

/-- The tokens that predicates write one after the other, `k` parameters being bound before
the first. -/
def fragments (d : Dialect) : Nat → List Predicate → List (List Token)
  | _, [] => []
  | k, p :: ps =>
    (p.template d).tokens d k :: fragments d (k + (p.template d).values.length) ps

/-- What stands between the fragments of a filter. -/
def seams : List Token := [.symbol '(', .symbol ')', .word "AND", .word "OR"]

/-- Tokens that are these fragments in order, with nothing but seams around them. -/
inductive Woven : List (List Token) → List Token → Prop
  | nil : Woven [] []
  | seam {ps : List (List Token)} {t : Token} {ts : List Token} (ht : t ∈ seams) (h : Woven ps ts) :
    Woven ps (t :: ts)
  | fragment {ps : List (List Token)} (p : List Token) {ts : List Token} (h : Woven ps ts) :
    Woven (p :: ps) (p ++ ts)

namespace Woven

variable {ps qs : List (List Token)} {ts us : List Token}

theorem append (hp : Woven ps ts) (hq : Woven qs us) : Woven (ps ++ qs) (ts ++ us) := by
  induction hp with
  | nil => exact hq
  | seam ht _ ih => exact .seam ht ih
  | fragment p _ ih => rw [List.append_assoc]; exact .fragment p ih

theorem seams {ts : List Token} (h : ∀ t ∈ ts, t ∈ Sql.seams) : Woven [] ts := by
  induction ts with
  | nil => exact .nil
  | cons t ts ih =>
    exact .seam (h t List.mem_cons_self) (ih fun u hu => h u (List.mem_cons_of_mem _ hu))

/-- What a reader takes from the tokens it takes from the fragments, if it takes nothing from
what stands between them. -/
theorem filterMap_eq {α : Type} {f : Token → Option α} (hf : ∀ t ∈ Sql.seams, f t = none)
    (h : Woven ps ts) : ts.filterMap f = ps.flatMap (·.filterMap f) := by
  induction h with
  | nil => rfl
  | seam ht _ ih => rw [List.filterMap_cons_none (hf _ ht), ih]
  | fragment p _ ih => rw [List.filterMap_append, ih, List.flatMap_cons]

/-- A token that never stands between fragments is in the tokens as often as in these. -/
theorem count_eq {a : Token} (ha : a ∉ Sql.seams) (h : Woven ps ts) :
    ts.count a = ps.flatten.count a := by
  induction h with
  | nil => rfl
  | seam ht _ ih =>
    have hne := ne_of_mem_of_not_mem ht ha
    rw [List.count_cons_of_ne hne, ih]
  | fragment p _ ih => rw [List.count_append, ih, List.flatten_cons, List.count_append]

end Woven

theorem fragments_append (d : Dialect) (k : Nat) (ps qs : List Predicate) :
    fragments d k (ps ++ qs) = fragments d k ps
      ++ fragments d (k + (ps.flatMap fun p => (p.template d).values).length) qs := by
  induction ps generalizing k with
  | nil => rfl
  | cons p ps ih =>
    simp only [List.cons_append, fragments, ih, List.flatMap_cons, List.length_append, Nat.add_assoc]

end Sql

namespace Plan

theorem woven_said {s : String} (h : ∀ t ∈ said s, t ∈ seams) :
    Woven [] (said s) := .seams h

mutual

/-- The tokens of a plan are the fragments of its conditions in document order. -/
theorem woven_plan (d : Dialect) (k : Nat) (t : Plan) :
    Woven (fragments d k t.leaves) ((template d t).tokens d k) := by
  cases t with
  | leaf p => simpa [Tree.leaves, fragments, template] using Woven.fragment _ .nil
  | group c ts =>
    have h := woven_plans d k c ts
    rw [template, Template.parens, Template.tokens, Template.tokens_append, Tree.leaves]
    have hclose : Woven [] (Template.tokens d (k + (Template.join c.sql (templates d ts)).values.length)
        [.sql ")"]) := (woven_said (s := ")") (by decide)).append .nil
    have hinner := h.append hclose
    rw [List.append_nil] at hinner
    exact (woven_said (s := "(") (by decide)).append hinner

theorem woven_plans (d : Dialect) (k : Nat) (c : Conjunction) (ts : List Plan) :
    Woven (fragments d k (Tree.leavesOf ts))
      ((Template.join c.sql (templates d ts)).tokens d k) := by
  cases ts with
  | nil => exact .nil
  | cons t ts =>
    have ht := woven_plan d k t
    cases ts with
    | nil => rw [Tree.leavesOf, Tree.leavesOf, List.append_nil]; exact ht
    | cons u us =>
      have hc : Woven [] (said c.sql) := by cases c <;> exact woven_said (by decide)
      have hus := woven_plans d (k + (template d t).values.length) c (u :: us)
      rw [Tree.leavesOf, fragments_append, templates, templates, Template.join_cons_cons,
        Template.tokens_append, ← values_template]
      exact ht.append (hc.append hus)

end

end Plan

/-! ## Question marks -/

namespace Sql

/-- A token, or the value a placeholder stands for. -/
inductive Item
  | token (t : Token)
  | value (v : Value)

/-- Reads each question mark as the next of the values. None if there are not equally many. -/
def bindMarks : List Token → List Value → Option (List Item)
  | [], [] => some []
  | [], _ :: _ => none
  | t :: ts, vs =>
    if t = .symbol '?' then
      match vs with
      | [] => none
      | v :: vs => (bindMarks ts vs).map (.value v :: ·)
    else (bindMarks ts vs).map (.token t :: ·)

namespace Template

/-- A template as its tokens with each value where it stands. -/
def items : Template → List Item
  | [] => []
  | .sql s :: ps => (said s).map .token ++ items ps
  | .value v :: ps => .value v :: items ps
  | .again :: ps => items ps

/-- The numbers of the placeholders when `k` parameters are bound before. -/
def numbers : Nat → Template → List Nat
  | _, [] => []
  | k, .sql _ :: ps => numbers k ps
  | k, .value _ :: ps => (k + 1) :: numbers (k + 1) ps
  | k, .again :: ps => k :: numbers k ps

end Template

theorem bindMarks_mark (ts : List Token) (v : Value) (vs : List Value) :
    bindMarks (.symbol '?' :: ts) (v :: vs) = (bindMarks ts vs).map (.value v :: ·) := by
  simp [bindMarks.eq_def (.symbol '?' :: ts)]

theorem bindMarks_of_ne {t : Token} (h : t ≠ .symbol '?') (ts : List Token) (vs : List Value) :
    bindMarks (t :: ts) vs = (bindMarks ts vs).map (.token t :: ·) := by
  simp [bindMarks.eq_def (t :: ts), h]

theorem bindMarks_append {ts : List Token} (h : .symbol '?' ∉ ts) (us : List Token) (vs : List Value) :
    bindMarks (ts ++ us) vs = (bindMarks us vs).map (ts.map .token ++ ·) := by
  induction ts with
  | nil => simp
  | cons t ts ih =>
    obtain ⟨ht, hts⟩ : .symbol '?' ≠ t ∧ .symbol '?' ∉ ts := by simpa using h
    rw [List.cons_append, bindMarks_of_ne (Ne.symm ht), ih hts, Option.map_map]
    rfl

/-- Reading question marks as the values in turn puts each value where its template has it. -/
theorem bindMarks_tokens {t : Template} (hw : .symbol '?' ∉ t.words) (ha : .again ∉ t) (k : Nat) :
    bindMarks (t.tokens .sqlite k) t.values = some t.items := by
  induction t generalizing k with
  | nil => rfl
  | cons p t ih =>
    have ht : .again ∉ t := fun h => ha (List.mem_cons_of_mem _ h)
    cases p with
    | sql s =>
      rw [Template.words, List.mem_append, not_or] at hw
      have hv : Template.values (.sql s :: t) = Template.values t := rfl
      rw [Template.tokens, bindMarks_append hw.1, hv, ih hw.2 ht]
      rfl
    | value v =>
      rw [Template.tokens, Template.values, Dialect.mark, bindMarks_mark, ih hw ht]
      rfl
    | again => exact absurd List.mem_cons_self ha

/-- There are as many question marks as values that can be read for them. -/
theorem count_of_bindMarks {ts : List Token} {vs : List Value} {is : List Item}
    (h : bindMarks ts vs = some is) : ts.count (.symbol '?') = vs.length := by
  induction ts generalizing vs is with
  | nil =>
    cases vs with
    | nil => rfl
    | cons v vs => cases h
  | cons t ts ih =>
    by_cases ht : t = .symbol '?'
    · subst ht
      cases vs with
      | nil => simp [bindMarks.eq_def (.symbol '?' :: ts)] at h
      | cons v vs =>
        rw [bindMarks_mark] at h
        obtain ⟨js, hjs, -⟩ := Option.map_eq_some_iff.mp h
        rw [List.count_cons_self, ih hjs, List.length_cons]
    · rw [bindMarks_of_ne ht] at h
      obtain ⟨js, hjs, -⟩ := Option.map_eq_some_iff.mp h
      rw [List.count_cons_of_ne ht, ih hjs]

/-! ## Numbered placeholders -/

def Token.number? : Token → Option Nat
  | numbered n => some n
  | _ => none

/-- The numbers of the placeholders among tokens, from left to right. -/
def numbersOf (ts : List Token) : List Nat := ts.filterMap Token.number?

theorem numbersOf_of_fixed {ts : List Token} (h : ∀ t ∈ ts, t.number? = none) :
    numbersOf ts = [] := List.filterMap_eq_nil_iff.mpr h

/-- The numbered placeholders of a template are those of its pieces. -/
theorem numbers_tokens {t : Template} (hw : ∀ w ∈ t.words, w.number? = none) (k : Nat) :
    numbersOf (t.tokens .postgres k) = t.numbers k := by
  induction t generalizing k with
  | nil => rfl
  | cons p t ih =>
    cases p with
    | sql s =>
      have hs := numbersOf_of_fixed fun w hm => hw w (List.mem_append_left _ hm)
      have ht := ih (fun w hm => hw w (List.mem_append_right _ hm)) k
      rw [numbersOf] at hs ht ⊢
      rw [Template.tokens, List.filterMap_append, hs, ht]
      rfl
    | value v => exact congrArg ((k + 1) :: ·) (ih hw (k + 1))
    | again => exact congrArg (k :: ·) (ih hw k)

/-- Where none is repeated they count up from those in use. -/
theorem numbers_of_once {t : Template} (ha : .again ∉ t) (k : Nat) :
    t.numbers k = List.range' (k + 1) t.values.length := by
  induction t generalizing k with
  | nil => rfl
  | cons p t ih =>
    have ht := ih fun h => ha (List.mem_cons_of_mem _ h)
    cases p with
    | sql s => exact ht k
    | value v =>
      have hv : (Template.values (.value v :: t)).length = (Template.values t).length + 1 := rfl
      rw [hv, List.range'_succ, Template.numbers, ht (k + 1)]
    | again => exact absurd List.mem_cons_self ha

/-! ## The placeholders of predicates -/

theorem again_not_mem_join (separator : String) {ts : List Template}
    (h : ∀ t ∈ ts, .again ∉ t) : .again ∉ Template.join separator ts := by
  refine Template.join_induction (P := fun t => .again ∉ t) List.not_mem_nil ?_ h
  intro t u ht hu
  simp [ht, hu]

theorem again_not_mem_list (vs : List String) : .again ∉ Template.list (vs.map .text) := by
  refine again_not_mem_join ", " fun t ht => ?_
  obtain ⟨v, -, rfl⟩ := List.mem_map.mp ht
  simp

theorem again_not_mem_arguments (tests : List PathTest) :
    .again ∉ Template.join ", " (tests.map PathTest.argument) := by
  refine again_not_mem_join ", " fun t ht => ?_
  obtain ⟨v, -, rfl⟩ := List.mem_map.mp ht
  simp [PathTest.argument]

namespace Predicate

variable {d : Dialect} {names : List String}

/-- Only a predicate that repeats has a placeholder for the value before. -/
theorem again_not_mem_template (p : Predicate) (h : p.FitsInside d names) :
    .again ∉ p.template d := by
  induction p with
  | sameMembers t vs => cases h.1
  | inList t vs => simp [template, again_not_mem_list]
  | outsideList t vs => simp [template, again_not_mem_list]
  | countsAll member array vs => simp [template, again_not_mem_list]
  | pathExists t tests => simp [template, again_not_mem_arguments]
  | notTrue p ih => simp [template, ih h.2]
  | someElement l array p ih => simp [template, ih h.2.2]
  | noElement l array p ih => simp [template, ih h.2.2]
  | both p q ihp ihq => simp [template, Template.parens, ihp h.2.1, ihq h.2.2]
  | _ => simp [template]

/-- The SQL of a predicate has no numbered placeholder. -/
theorem number?_of_mem_words {p : Predicate} (h : p.Fits .postgres names) :
    ∀ w ∈ (p.template .postgres).words, w.number? = none := by
  rw [(reads_template _ _).2]
  intro w hw
  rcases allowed_words p h w hw with hf | ⟨name, -, rfl⟩
  · cases w with
    | numbered n => cases hf
    | _ => rfl
  · rfl

/-- The numbers of a predicate count up, or are that of its one parameter twice. -/
theorem numbers_predicate (p : Predicate) (h : p.Fits .postgres names) (k : Nat) :
    numbersOf ((p.template .postgres).tokens .postgres k)
        = (if p.repeats then [k + 1, k + 1]
          else List.range' (k + 1) (p.template .postgres).values.length)
      ∧ (p.repeats = true → (p.template .postgres).values.length = 1) := by
  rw [numbers_tokens (number?_of_mem_words h)]
  cases hr : p.repeats with
  | false =>
    rw [numbers_of_once (again_not_mem_template p ⟨hr, h⟩)]
    exact ⟨rfl, nofun⟩
  | true =>
    cases p with
    | sameMembers t vs => exact ⟨rfl, fun _ => rfl⟩
    | _ => cases hr

/-- The SQL of a predicate in SQLite has no question mark. -/
theorem mark_not_mem_words (p : Predicate) (h : p.Fits .sqlite names) :
    .symbol '?' ∉ (p.template .sqlite).words := by
  rw [(reads_template _ _).2]
  intro hmem
  rcases allowed_words p h _ hmem with hf | ⟨name, -, hname⟩
  · exact absurd hf (by decide)
  · cases hname

theorem fitsInside_of_sqlite {p : Predicate} (h : p.Fits .sqlite names) :
    p.FitsInside .sqlite names := by
  cases p with
  | sameMembers t vs => cases h.1
  | _ => exact ⟨rfl, h⟩

end Predicate

end Sql

theorem Form.eq_hasExactly_iff (f : Form) :
    f = .hasExactly ↔ f.listOperator? = some .exactly := by
  cases f with
  | passes t => cases t <;> simp [listOperator?]
  | fails t => cases t <;> simp [listOperator?]
  | _ => simp [listOperator?]

theorem Sql.Postgres.repeats_predicate (kind : CellKind) (t : Term) {n : Cardinality}
    (q : Criterion n) : (Postgres.predicate kind t q).repeats = decide (q.form = .hasExactly) := by
  cases q with
  | passes test => cases n <;> cases test <;> rfl
  | fails test => cases n <;> cases test <;> rfl
  | isEmpty => cases n <;> cases kind <;> rfl
  | isNotEmpty => cases n <;> cases kind <;> rfl
  | hasAll ss => rfl
  | hasExactly ss => rfl

/-- Whether a condition asks a list of texts or of structured values to be exactly a list. -/
def Condition.asksExactly (schema : Schema) (q : Condition) : Bool :=
  match schema q.columnId with
  | none => false
  | some column =>
    column.isMultiValued && (column.kind = .text || column.kind = .structured)
      && q.operator? column.kind = some .exactly

theorem exactly_mem_legalOperators {kind : CellKind} {n : Cardinality}
    (h : .exactly ∈ legalOperators kind n) : n = .multi ∧ (kind = .text ∨ kind = .structured) := by
  revert h
  cases kind <;> cases n <;> decide

/-- The predicate of a condition repeats a placeholder if the condition asks for an exact list. -/
theorem Compiler.repeats_of_requirement {c : Compiler} {schema : Schema} {now : Instant}
    {q : Condition} {r : Requirement} (h : c.requirement schema now q = .ok r) :
    (r.predicate .postgres c.table).repeats = q.asksExactly schema := by
  obtain ⟨op, clock, hs, hop, hread⟩ := c.requirement_ok schema h
  obtain ⟨hop, hlegal⟩ := mem_legalOperators_of_resolve hop
  have hform : r.criterion.form = .hasExactly ↔ op = .exactly := by
    rw [Form.eq_hasExactly_iff, (Criterion.readFrom_of_read? hread).listOperator?]
    cases op <;> simp [Operator.takesList]
  have hcol : op = .exactly →
      r.column.isMultiValued = true ∧ (r.column.kind = .text ∨ r.column.kind = .structured) := by
    rintro rfl
    obtain ⟨hn, hk⟩ := exactly_mem_legalOperators hlegal
    refine ⟨?_, hk⟩
    unfold Column.cardinality at hn
    split at hn
    · assumption
    · cases hn
  have hrep : (r.predicate .postgres c.table).repeats = decide (op = .exactly) :=
    (Sql.Postgres.repeats_predicate _ _ r.criterion).trans (decide_eq_decide.mpr hform)
  rw [hrep, Condition.asksExactly, hs]
  simp only [hop, Option.some.injEq]
  by_cases he : op = .exactly
  · obtain ⟨hm, hk | hk⟩ := hcol he <;> simp [he, hm, hk]
  · simp [he]

/-! ## The placeholders of filters -/

/-- The numbers that conditions and their predicates read as, `k` parameters being bound before
the first: they count up, but an exact list has the number of its one parameter twice. -/
def numbering (schema : Schema) : Nat → List (Condition × Predicate) → List Nat
  | _, [] => []
  | k, (q, p) :: rest =>
    let n := (p.template .postgres).values.length
    (if q.asksExactly schema then [k + 1, k + 1] else List.range' (k + 1) n)
      ++ numbering schema (k + n) rest

/-- The numbers of the fragments of conditions. -/
theorem numbersOf_fragments {c : Compiler} {schema : Schema} {now : Instant}
    {qs : List Condition} {rs : List Requirement}
    (h : List.Forall₂ (fun q r => c.requirement schema now q = .ok r) qs rs) (k : Nat) :
    let ps := rs.map (Requirement.predicate .postgres c.table)
    (fragments .postgres k ps).flatMap numbersOf = numbering schema k (qs.zip ps)
      ∧ ∀ x ∈ qs.zip ps, x.1.asksExactly schema = true → (x.2.template .postgres).values.length = 1 := by
  induction h generalizing k with
  | nil => exact ⟨rfl, nofun⟩
  | @cons q r qs rs hqr _ ih =>
    obtain ⟨hn, hone⟩ := Predicate.numbers_predicate _
      (Requirement.fits_predicate (fun _ h => h) .postgres) k
    rw [Compiler.repeats_of_requirement hqr] at hn hone
    obtain ⟨hns, hones⟩ := ih (k + ((r.predicate .postgres c.table).template .postgres).values.length)
    refine ⟨?_, ?_⟩
    · simp only [List.map_cons, fragments, List.flatMap_cons, List.zip_cons_cons, numbering, hn]
      exact congrArg _ hns
    · simp only [List.map_cons, List.zip_cons_cons, List.mem_cons]
      rintro x (rfl | hx)
      · exact hone
      · exact hones x hx

theorem flatMap_zip_snd {α β γ : Type} {as : List α} {bs : List β} (f : β → List γ)
    (h : bs.length ≤ as.length) : ((as.zip bs).flatMap fun x => f x.2) = bs.flatMap f := by
  conv => rhs; rw [← List.map_snd_zip h, List.flatMap_map]

/-- The numbers are those of the parameters bound, and no others. -/
theorem mem_numbering {schema : Schema} {xs : List (Condition × Predicate)}
    (h : ∀ x ∈ xs, x.1.asksExactly schema = true → (x.2.template .postgres).values.length = 1)
    (k j : Nat) : j ∈ numbering schema k xs ↔
      k < j ∧ j ≤ k + (xs.flatMap fun x => (x.2.template .postgres).values).length := by
  induction xs generalizing k with
  | nil => simp [numbering]
  | cons x xs ih =>
    obtain ⟨q, p⟩ := x
    have hx := h (q, p) List.mem_cons_self
    have hxs := ih (fun y hy => h y (List.mem_cons_of_mem _ hy))
      (k + (p.template .postgres).values.length)
    simp only [numbering, List.mem_append, hxs, List.flatMap_cons, List.length_append]
    split
    · rw [hx ‹_›]
      simp only [List.mem_cons, List.not_mem_nil, or_false, or_self]
      omega
    · rw [List.mem_range'_1]
      omega

/-- A predicate in SQLite has as many question marks as values, each where its value goes. -/
theorem Sql.Predicate.bindMarks_predicate {names : List String} (p : Predicate)
    (h : p.Fits .sqlite names) (k : Nat) :
    let t := p.template .sqlite
    bindMarks (t.tokens .sqlite k) t.values = some t.items :=
  bindMarks_tokens (mark_not_mem_words p h)
    (again_not_mem_template p (fitsInside_of_sqlite h)) k

/-- What a compiled filter reads as: the fragments of its conditions, woven together, and the
values they bind. -/
theorem Compiler.tokens?_written (c : Compiler) (k : Nat) (rs : Tree Requirement) :
    let ps := rs.leaves.map (Requirement.predicate c.dialect c.table)
    ∃ ts, tokens? (c.written k rs).sql = some ts ∧ Woven (fragments c.dialect k ps) ts
      ∧ (c.written k rs).params.values = ps.flatMap fun p => (p.template c.dialect).values := by
  have hleaves : (c.planOf rs).leaves
      = rs.leaves.map (Requirement.predicate c.dialect c.table) := Tree.leaves_map _ rs
  refine ⟨_, Plan.legible_template c.dialect (c.planOf rs) k, ?_, c.values_written k rs⟩
  rw [← hleaves]
  exact Plan.woven_plan c.dialect k (c.planOf rs)

theorem count_fragments {ps : List Predicate} (k : Nat)
    (h : ∀ p ∈ ps, ∀ j, ((p.template .sqlite).tokens .sqlite j).count (.symbol '?')
      = (p.template .sqlite).values.length) :
    (fragments .sqlite k ps).flatten.count (.symbol '?')
      = (ps.flatMap fun p => (p.template .sqlite).values).length := by
  induction ps generalizing k with
  | nil => rfl
  | cons p ps ih =>
    have hp := h p List.mem_cons_self k
    have hps := ih (k + (p.template .sqlite).values.length)
      fun p' hp' => h p' (List.mem_cons_of_mem _ hp')
    rw [fragments, List.flatten_cons, List.count_append, hp, hps, List.flatMap_cons,
      List.length_append]

/-- The placeholders of a compiled filter and the parameters it binds agree. Its text is that
of its conditions in document order, with nothing but parentheses and conjunctions between. In
SQLite each condition has a question mark for every value it binds, in the place of that value.
In PostgreSQL the placeholders count up from the offset, each once, except that the parameter of
an exact list stands twice in a row. -/
theorem placeholders_agree (c : Compiler) (schema : Schema) (ctx : Context) (k : Nat) (f : Filter)
    {out : CompiledPredicate} (h : c.predicate schema ctx k f = .ok (some out)) :
    ∃ g ps ts, f.prepare schema c.actorPlaceholder ctx.actor = .ok (some g)
      ∧ g.leaves.mapM (c.condition schema ctx.now) = .ok ps
      ∧ tokens? out.sql = some ts
      ∧ out.params.values = (ps.flatMap fun p => (p.template c.dialect).values)
      ∧ Woven (fragments c.dialect k ps) ts
      ∧ (∀ p ∈ ps, ∀ j,
        tokens? ((p.template c.dialect).text c.dialect j) = some ((p.template c.dialect).tokens c.dialect j))
      ∧ (c.dialect = .sqlite →
        ts.count (.symbol '?') = out.params.values.length
          ∧ ∀ p ∈ ps, ∀ j, let t := p.template .sqlite
            (t.tokens .sqlite j).count (.symbol '?') = t.values.length
              ∧ bindMarks (t.tokens .sqlite j) t.values = some t.items)
      ∧ (c.dialect = .postgres →
        numbersOf ts = numbering schema k (g.leaves.zip ps)
          ∧ (∀ x ∈ g.leaves.zip ps, x.1.asksExactly schema = true →
            (x.2.template .postgres).values.length = 1)
          ∧ ∀ j, j ∈ numbersOf ts ↔ k < j ∧ j ≤ k + out.params.values.length) := by
  obtain ⟨rs, hrs, rfl⟩ := c.predicate_ok schema h
  obtain ⟨g, hg, htr⟩ := c.requirements_ok schema hrs
  obtain ⟨hps, hread⟩ := Compiler.leaves_of_traverse htr
  obtain ⟨ts, hts, hwoven, hvalues⟩ := c.tokens?_written k rs
  refine ⟨g, _, ts, hg, hps, hts, hvalues, hwoven,
    fun p _ j => (p.reads_template c.dialect).1 j, ?_, ?_⟩
  · intro hd
    rw [hd] at hwoven hvalues ⊢
    have hbind : ∀ p ∈ rs.leaves.map (Requirement.predicate .sqlite c.table), ∀ j,
        bindMarks ((p.template .sqlite).tokens .sqlite j) (p.template .sqlite).values
          = some (p.template .sqlite).items := by
      intro p hp j
      obtain ⟨r, -, rfl⟩ := List.mem_map.mp hp
      exact Predicate.bindMarks_predicate _ (Requirement.fits_predicate (fun _ h => h) .sqlite) j
    have hcount := fun p hp j => count_of_bindMarks (hbind p hp j)
    refine ⟨?_, fun p hp j => ⟨hcount p hp j, hbind p hp j⟩⟩
    rw [hwoven.count_eq (by decide), count_fragments k hcount, hvalues]
  · intro hd
    rw [hd] at hwoven hvalues ⊢
    obtain ⟨hnumbers, hone⟩ := numbersOf_fragments (c := c) hread k
    have hts : numbersOf ts = numbering schema k
        (g.leaves.zip (rs.leaves.map (Requirement.predicate .postgres c.table))) := by
      rw [numbersOf, hwoven.filterMap_eq (by decide)]
      exact hnumbers
    refine ⟨hts, hone, fun j => ?_⟩
    have hlen : (rs.leaves.map (Requirement.predicate .postgres c.table)).length ≤ g.leaves.length := by
      rw [List.length_map]
      exact Nat.le_of_eq hread.length_eq.symm
    have hzip := flatMap_zip_snd (fun p : Predicate => (p.template .postgres).values) hlen
    rw [hts, mem_numbering hone, hvalues, hzip]

/-- A list of texts in a column whose name could be taken for placeholders. -/
def oddlyNamed : Schema :=
  Schema.ofList [{ id := "tags", dbName := "$1 ?", semanticType := .text, isMultiValued := true }]

/-- Tags that are exactly two, or none. -/
def twoTagsOrNone : Filter :=
  .group .or
    [.leaf { columnId := "tags", operator := "exactly", value := .arr [.str "a", .str "b"] },
      .leaf { columnId := "tags", operator := "isEmpty", value := .null }]

theorem placeholders_agree_twoTagsOrNone :
    ∃ out ts, (Compiler.mk .postgres .bundled .utc "me" none).predicate oddlyNamed
        ⟨none, ⟨0, 0⟩⟩ 2 twoTagsOrNone = .ok (some out)
      ∧ tokens? out.sql = some ts ∧ ∀ j ∈ numbersOf ts, j = 3 := by
  obtain ⟨_, _, ts, _, _, hts, _, _, _, _, hpg⟩ :=
    placeholders_agree (.mk .postgres .bundled .utc "me" none) oddlyNamed
      ⟨none, ⟨0, 0⟩⟩ 2 twoTagsOrNone rfl
  refine ⟨_, ts, rfl, hts, fun j hj => ?_⟩
  obtain ⟨hlow, hhigh⟩ := ((hpg rfl).2.2 j).mp hj
  exact Nat.le_antisymm hhigh hlow

end RowFilter
