import RowFilter.Calendar.Zone.Database
import RowFilter.Proofs.QueryRun
import RowFilter.Proofs.SelfContained
/-!
# Question marks and the order of parameters

In SQLite a placeholder has no number: the first question mark of a query stands for its first
parameter, the second for the second. A caller who writes the placeholders that were handed out in
another order than they were, or has a filter compiled between, gets a query whose question marks
stand for other parameters than they were created for.

Results:
* `token_traced`, `marks_traced`: a template with its question marks traced.
* `tokens?_build`: the tokens of a finished query, every question mark traced.
* `orderly_enter`, `exists_mark_of_not_inTurn`: what a move in its turn and one out of turn do to
  the order of question marks.
* `marks_iff_inTurn`: what several moves do to it.
* `marks_in_order_iff`: the question marks of a finished query are those of its parameters in order
  exactly if each placeholder was written in its turn.
-/
namespace RowFilter

open Sql

namespace Sql

/-! ## Traced tokens -/

/-- A token of a text in SQLite. Of a question mark it is known for which parameter it was
created. -/
inductive Traced
  | plain (t : Token)
  | mark (n : Nat)

namespace Traced

def token : Traced → Token
  | plain t => t
  | mark _ => .symbol '?'

def mark? : Traced → Option Nat
  | plain _ => none
  | mark n => some n

/-- The tokens of a text that has no placeholder. -/
def ofText (s : String) : List Traced := (said s).map plain

@[simp] theorem map_token_ofText (s : String) : (ofText s).map token = said s := by
  rw [ofText, List.map_map]
  exact List.map_id _

theorem not_mem_ofText {s : String} (h : .symbol '?' ∉ said s) :
    plain (.symbol '?') ∉ ofText s := by
  simpa [ofText] using h

end Traced

/-- The numbers of the parameters that question marks were created for, from left to right. -/
def marks (ts : List Traced) : List Nat := ts.filterMap Traced.mark?

@[simp] theorem marks_append (ts us : List Traced) : marks (ts ++ us) = marks ts ++ marks us :=
  List.filterMap_append

@[simp] theorem marks_ofText (s : String) : marks (Traced.ofText s) = [] := by
  simp [marks, Traced.ofText, Traced.mark?]

/-- Where every question mark is traced, there are as many as were created. -/
theorem count_of_traced {ts : List Traced} (h : .plain (.symbol '?') ∉ ts) :
    (ts.map Traced.token).count (.symbol '?') = (marks ts).length := by
  induction ts with
  | nil => rfl
  | cons t ts ih =>
    obtain ⟨ht, hts⟩ := not_or.mp (fun ht => h (List.mem_cons.mpr ht))
    cases t with
    | plain u =>
      have hne : u ≠ .symbol '?' := fun hu => ht (hu ▸ rfl)
      rw [List.map_cons, Traced.token, List.count_cons_of_ne hne, ih hts]
      rfl
    | mark n =>
      rw [List.map_cons, Traced.token, List.count_cons_self, ih hts]
      rfl

namespace Template

/-- The tokens of a template in SQLite when `k` parameters are bound before. -/
def traced : Nat → Template → List Traced
  | _, [] => []
  | k, .sql s :: ps => Traced.ofText s ++ traced k ps
  | k, .value _ :: ps => .mark (k + 1) :: traced (k + 1) ps
  | k, .again :: ps => .mark k :: traced k ps

theorem token_traced (k : Nat) (t : Template) :
    (t.traced k).map Traced.token = t.tokens .sqlite k := by
  induction t generalizing k with
  | nil => rfl
  | cons p t ih =>
    cases p with
    | sql s => rw [traced, tokens, List.map_append, Traced.map_token_ofText, ih]
    | value v => rw [traced, tokens, List.map_cons, ih]; rfl
    | again => rw [traced, tokens, List.map_cons, ih]; rfl

theorem marks_traced (k : Nat) (t : Template) : marks (t.traced k) = t.numbers k := by
  induction t generalizing k with
  | nil => rfl
  | cons p t ih =>
    cases p with
    | sql s =>
      rw [traced, marks_append, marks_ofText, ih]
      rfl
    | value v => exact congrArg ((k + 1) :: ·) (ih (k + 1))
    | again => exact congrArg (k :: ·) (ih k)

theorem not_mem_traced {t : Template} (h : .symbol '?' ∉ t.words) (k : Nat) :
    .plain (.symbol '?') ∉ t.traced k := by
  induction t generalizing k with
  | nil => exact List.not_mem_nil
  | cons p t ih =>
    cases p with
    | sql s =>
      obtain ⟨hs, ht⟩ := not_or.mp (fun ht => h (List.mem_append.mpr ht))
      exact fun hmem => (List.mem_append.mp hmem).elim (Traced.not_mem_ofText hs) (ih ht k)
    | value v => simpa [traced] using ih h (k + 1)
    | again => simpa [traced] using ih h k

end Template

end Sql

/-! ## Moves -/

/-- A step of a caller, who binds values, writes their placeholders into predicates and has filters
compiled. -/
inductive Move
  | bind (v : Value)
  | push (sql : String)
  /-- Appends a predicate with the placeholder of the parameter with number `n` in it. -/
  | write (before : String) (n : Nat) (after : String)
  | compile (c : Compiler) (schema : Schema) (ctx : Context) (f : Filter)

/-- A predicate as it was written: a template, and the number of parameters that its placeholders
are numbered after. -/
structure Entry where
  template : Template
  after : Nat

namespace Entry

def text (e : Entry) : String := e.template.text .sqlite e.after

def traced (e : Entry) : List Traced := e.template.traced e.after

end Entry

namespace Move

def step : Move → QueryStep
  | bind v => .bind v
  | push sql => .push sql
  | write before n after => .push (before ++ Dialect.sqlite.placeholder n ++ after)
  | compile c schema ctx f => .compile c schema ctx f

/-- How many values a move binds when `k` are bound. -/
def binds (k : Nat) (m : Move) : Nat := (m.step.contribution .sqlite k).params.length

/-- The predicates that a move appends when `k` values are bound. -/
def entries (k : Nat) : Move → List Entry
  | bind _ => []
  | push sql => [⟨[.sql sql], k⟩]
  -- a placeholder that is handed out already, so that none is numbered anew
  | write before n after => [⟨[.sql before, .again, .sql after], n⟩]
  | compile c schema ctx f =>
    if c.dialect = .sqlite then
      match c.plan schema ctx f with
      | .ok (some plan) => [⟨plan.template .sqlite, k⟩]
      | _ => []
    else []

end Move

/-- What a caller keeps track of: how many parameters are bound, and the numbers of those whose
placeholders are still to be written, oldest first. -/
structure Ledger where
  bound : Nat
  pending : List Nat

/-- A text that ends outside quotes and has no question mark outside of them. -/
def Bare (s : String) : Prop := (tokens? s).isSome = true ∧ .symbol '?' ∉ said s

instance (s : String) : Decidable (Bare s) := inferInstanceAs (Decidable (_ ∧ _))

namespace Ledger

def empty : Ledger := ⟨0, []⟩

def enter (l : Ledger) (m : Move) : Ledger where
  bound := l.bound + m.binds l.bound
  pending := match m with
    | .bind _ => l.pending ++ [l.bound + 1]
    | .write _ n _ => l.pending.erase n
    | _ => l.pending

def run (l : Ledger) (ms : List Move) : Ledger := ms.foldl enter l

/-- Whether the placeholder that a move writes, if it writes one, was handed out and is still to be
written, and no other question mark is written. -/
def Allows (l : Ledger) : Move → Prop
  | .push sql => Bare sql
  | .write before n after => n ∈ l.pending ∧ Bare before ∧ Bare after
  | _ => True

/-- Whether a move writes the placeholder that was handed out first among those that are pending,
and a filter with values is compiled only while none is. -/
def InTurn (l : Ledger) : Move → Prop
  | .write _ n _ => l.pending.head? = some n
  | .compile c schema ctx f =>
    l.pending = [] ∨ (Move.compile c schema ctx f).binds l.bound = 0
  | _ => True

/-- Whether all of several moves are of a kind, each where it is made. -/
def Along (P : Ledger → Move → Prop) : Ledger → List Move → Prop
  | _, [] => True
  | l, m :: ms => P l m ∧ Along P (l.enter m) ms

/-- The predicates that several moves append. -/
def entries (l : Ledger) : List Move → List Entry
  | [] => []
  | m :: ms => m.entries l.bound ++ entries (l.enter m) ms

end Ledger

/-! ## What moves append -/

namespace Entry

/-- The text is read piece by piece, and every question mark in it is traced. -/
def Sound (e : Entry) : Prop :=
  tokens? e.text = some (e.traced.map Traced.token) ∧ .plain (.symbol '?') ∉ e.traced

theorem sound_of_legible {t : Template} (ht : t.Legible .sqlite) (hw : .symbol '?' ∉ t.words)
    (k : Nat) : Sound ⟨t, k⟩ :=
  ⟨(ht k).trans (congrArg some (t.token_traced k).symm), t.not_mem_traced hw k⟩

end Entry

/-- No token goes through the end of a question mark. -/
theorem Sql.Template.legible_again_cons {t : Template} (ht : t.Legible .sqlite) :
    Template.Legible .sqlite (.again :: t) := by
  intro k
  have hmark : said "?" = [.symbol '?'] := said_of_tokens? (by decide)
  have htext : Template.text .sqlite k (.again :: t) = "?" ++ t.text .sqlite k := String.join_cons
  rw [htext, tokens?_said_append (by decide) (ht k), hmark]
  rfl

/-- The SQL of a compiled filter has no question mark, and no placeholder stands in it twice. -/
theorem Compiler.mark_not_mem_planOf (c : Compiler) (hd : c.dialect = .sqlite)
    (rs : Tree Requirement) :
    .symbol '?' ∉ ((c.planOf rs).template .sqlite).words
      ∧ .again ∉ (c.planOf rs).template .sqlite := by
  refine Plan.template_induction (P := fun t => .symbol '?' ∉ t.words ∧ .again ∉ t)
    (fun conj ts hts => ⟨?_, ?_⟩) (c.planOf rs) fun p hp => ?_
  · have hjoin : .symbol '?' ∉ (Template.join conj.sql ts).words := by
      refine Template.join_induction (P := fun t => .symbol '?' ∉ t.words) List.not_mem_nil ?_
        fun t ht => (hts t ht).1
      intro t u ht hu
      have hconj : .symbol '?' ∉ said conj.sql := by cases conj <;> decide
      simp [Template.words, ht, hu, hconj]
    have hopen : .symbol '?' ∉ said "(" := by decide
    have hclose : .symbol '?' ∉ said ")" := by decide
    simp [Template.parens, Template.words, hjoin, hopen, hclose]
  · have hjoin := again_not_mem_join conj.sql fun t ht => (hts t ht).2
    simp [Template.parens, hjoin]
  · rw [planOf, Tree.leaves_map] at hp
    obtain ⟨r, -, rfl⟩ := List.mem_map.mp hp
    rw [hd]
    have hfits : (r.predicate .sqlite c.table).Fits .sqlite _ :=
      Requirement.fits_predicate (fun _ h => h) .sqlite
    exact ⟨Predicate.mark_not_mem_words _ hfits,
      Predicate.again_not_mem_template _ (Predicate.fitsInside_of_sqlite hfits)⟩

namespace Move

variable (k : Nat)

/-- The numbers of the question marks that a move appends. -/
def marks (m : Move) : List Nat := (m.entries k).flatMap fun e => Sql.marks e.traced

/-- A filter is compiled to one predicate, or contributes nothing. -/
theorem compile_cases (c : Compiler) (schema : Schema) (ctx : Context) (f : Filter) :
    let m := compile c schema ctx f
    (m.entries k = [] ∧ m.step.contribution .sqlite k = ⟨[], []⟩)
      ∨ ∃ rs, c.dialect = .sqlite ∧ m.entries k = [⟨(c.planOf rs).template .sqlite, k⟩]
        ∧ m.step.contribution .sqlite k
          = ⟨[((c.planOf rs).template .sqlite).text .sqlite k],
              ((c.planOf rs).template .sqlite).values⟩ := by
  by_cases hd : c.dialect = .sqlite
  · obtain ⟨d, zone, placeholder, table⟩ := c
    cases hd
    simp only [entries, step, QueryStep.contribution, Compiler.plan_eq, Compiler.predicate_eq,
      if_true, ne_eq, not_true, if_false]
    cases Compiler.requirements _ schema ctx f with
    | error e => exact .inl ⟨rfl, rfl⟩
    | ok o =>
      cases o with
      | none => exact .inl ⟨rfl, rfl⟩
      | some rs => exact .inr ⟨rs, trivial, rfl, rfl⟩
  · exact .inl ⟨if_neg hd, if_pos (Ne.symm hd)⟩

theorem predicates_contribution (m : Move) :
    (m.step.contribution .sqlite k).predicates = (m.entries k).map Entry.text := by
  cases m with
  | bind v => rfl
  | push sql => exact congrArg ([·]) (Template.text_sql .sqlite k sql).symm
  | write before n after =>
    have htext : Template.text .sqlite n [.sql before, .again, .sql after]
        = before ++ Dialect.sqlite.placeholder n ++ after := by
      simp [Template.text, Template.pieceTexts, String.append_assoc]
    exact congrArg ([·]) htext.symm
  | compile c schema ctx f =>
    obtain ⟨he, hc⟩ | ⟨rs, -, he, hc⟩ := compile_cases k c schema ctx f
    · rw [he, hc]; rfl
    · rw [he, hc]; rfl

@[simp] theorem marks_bind (v : Value) : (bind v).marks k = [] := rfl

@[simp] theorem marks_push (sql : String) : (push sql).marks k = [] := by
  simp [marks, entries, Entry.traced, Template.marks_traced, Template.numbers]

@[simp] theorem marks_write (before : String) (n : Nat) (after : String) :
    (write before n after).marks k = [n] := by
  simp [marks, entries, Entry.traced, Template.marks_traced, Template.numbers]

/-- The question marks of a compiled filter are those of its values in order. -/
theorem marks_compile (c : Compiler) (schema : Schema) (ctx : Context) (f : Filter) :
    (compile c schema ctx f).marks k
      = List.range' (k + 1) ((compile c schema ctx f).binds k) := by
  rw [marks, binds]
  obtain ⟨he, hc⟩ | ⟨rs, hd, he, hc⟩ := compile_cases k c schema ctx f
  · rw [he, hc]; rfl
  · rw [he, hc, List.flatMap_singleton, Entry.traced, Template.marks_traced]
    exact numbers_of_once (c.mark_not_mem_planOf hd rs).2 k

theorem sound_entries {l : Ledger} {m : Move} (h : l.Allows m) : ∀ e ∈ m.entries k, e.Sound := by
  cases m with
  | bind v => exact fun e he => absurd he List.not_mem_nil
  | push sql =>
    intro e he
    rw [List.mem_singleton.mp he]
    exact Entry.sound_of_legible (.sql (tokens?_said h.1)) (by simpa [Template.words] using h.2) k
  | write before n after =>
    obtain ⟨-, hb, ha⟩ := h
    intro e he
    rw [List.mem_singleton.mp he]
    refine Entry.sound_of_legible ?_ (by simpa [Template.words] using ⟨hb.2, ha.2⟩) n
    exact .cons (.sql (tokens?_said hb.1)) (Template.legible_again_cons (.sql (tokens?_said ha.1)))
      rfl
  | compile c schema ctx f =>
    intro e he
    obtain ⟨hnone, -⟩ | ⟨rs, hd, hsome, -⟩ := compile_cases k c schema ctx f
    · rw [hnone] at he
      cases he
    · rw [hsome] at he
      rw [List.mem_singleton.mp he]
      exact Entry.sound_of_legible (Plan.legible_template .sqlite (c.planOf rs))
        (c.mark_not_mem_planOf hd rs).1 k

end Move

/-- The tokens of predicates, `opening` before the first and an AND before each other. -/
def conjoined (opening : String) : List Entry → List Traced
  | [] => []
  | e :: es => Traced.ofText opening ++ (e.traced ++ conjoined " AND " es)

/-- The tokens of a query with these predicates. -/
def trace (select : String) (es : List Entry) : List Traced :=
  Traced.ofText select ++ conjoined " WHERE " es

theorem tokens?_conjoined {a opening : String} {us : List Token} {e : Entry} {es : List Entry}
    (ha : tokens? a = some us) (hc : closes opening = true) (hf : Follows opening)
    (h : ∀ e' ∈ e :: es, e'.Sound) :
    tokens? (a ++ opening ++ String.intercalate " AND " ((e :: es).map Entry.text))
      = some (us ++ (conjoined opening (e :: es)).map Traced.token) := by
  induction es generalizing a opening us e with
  | nil =>
    rw [List.map_singleton, String.intercalate_singleton,
      tokens?_between ha (h e List.mem_cons_self).1 hc hf]
    simp [conjoined]
  | cons e' es ih =>
    have he := tokens?_between ha (h e List.mem_cons_self).1 hc hf
    have hassoc : a ++ opening ++ String.intercalate " AND " ((e :: e' :: es).map Entry.text)
        = a ++ opening ++ e.text ++ " AND "
          ++ String.intercalate " AND " ((e' :: es).map Entry.text) := by
      rw [List.map_cons, List.map_cons, String.intercalate_cons_cons]
      simp only [String.append_assoc]
    rw [hassoc, ih he (by decide) (by decide) fun e'' he'' => h e'' (List.mem_cons_of_mem _ he'')]
    simp [conjoined]

theorem marks_conjoined (opening : String) (es : List Entry) :
    marks (conjoined opening es) = es.flatMap fun e => marks e.traced := by
  induction es generalizing opening with
  | nil => rfl
  | cons e es ih => simp [conjoined, ih]

theorem not_mem_conjoined {opening : String} {es : List Entry} (ho : .symbol '?' ∉ said opening)
    (h : ∀ e ∈ es, e.Sound) : .plain (.symbol '?') ∉ conjoined opening es := by
  induction es generalizing opening with
  | nil => exact List.not_mem_nil
  | cons e es ih =>
    have he := (h e List.mem_cons_self).2
    have hes : .plain (.symbol '?') ∉ conjoined " AND " es :=
      ih (by decide) fun e' he' => h e' (List.mem_cons_of_mem _ he')
    simp [conjoined, Traced.not_mem_ofText ho, he, hes]

/-- A query reads as the tokens of its predicates, every question mark traced. -/
theorem tokens?_build {q : Query} {es : List Entry} (hs : Bare q.select)
    (hp : q.predicates = es.map Entry.text) (h : ∀ e ∈ es, e.Sound) :
    tokens? q.build.sql = some ((trace q.select es).map Traced.token) := by
  have hselect := tokens?_said hs.1
  rw [Query.build, Query.whereClause?, hp, trace, List.map_append, Traced.map_token_ofText]
  cases es with
  | nil => simpa [conjoined] using hselect
  | cons e es => exact tokens?_conjoined hselect (by decide) (by decide) h

/-- A query has as many question marks as were created. -/
theorem count_trace {select : String} {es : List Entry} (hs : Bare select) (h : ∀ e ∈ es, e.Sound) :
    ((trace select es).map Traced.token).count (.symbol '?')
      = (es.flatMap fun e => marks e.traced).length := by
  have hmem : .plain (.symbol '?') ∉ trace select es := by
    rw [trace, List.mem_append, not_or]
    exact ⟨Traced.not_mem_ofText hs.2, not_mem_conjoined (by decide) h⟩
  rw [count_of_traced hmem, trace, marks_append, marks_ofText, marks_conjoined, List.nil_append]

/-! ## The order of question marks -/

namespace Ledger

/-- The numbers of the question marks that several moves append. -/
def marks (l : Ledger) (ms : List Move) : List Nat :=
  (l.entries ms).flatMap fun e => Sql.marks e.traced

theorem marks_cons (l : Ledger) (m : Move) (ms : List Move) :
    l.marks (m :: ms) = m.marks l.bound ++ (l.enter m).marks ms :=
  List.flatMap_append

/-- The first `a` placeholders are written, and those after them are pending. -/
def Orderly (l : Ledger) (a : Nat) : Prop :=
  a ≤ l.bound ∧ l.pending = List.range' (a + 1) (l.bound - a)

theorem orderly_empty : empty.Orderly 0 := ⟨Nat.le_refl 0, rfl⟩

/-- A move in its turn writes the next placeholders in order. -/
theorem orderly_enter {l : Ledger} {a : Nat} {m : Move} (h : l.Orderly a) (hm : l.InTurn m) :
    m.marks l.bound = List.range' (a + 1) (m.marks l.bound).length
      ∧ (l.enter m).Orderly (a + (m.marks l.bound).length) := by
  obtain ⟨hle, hpending⟩ := h
  cases m with
  | bind v =>
    refine ⟨rfl, Nat.le_succ_of_le hle, ?_⟩
    have hlen : l.bound + 1 - a = l.bound - a + 1 := by omega
    have hlast : a + 1 + (l.bound - a) = l.bound + 1 := by omega
    show l.pending ++ [l.bound + 1] = List.range' (a + 1) (l.bound + 1 - a)
    rw [hlen, List.range'_1_concat, hlast, hpending]
  | push sql =>
    rw [Move.marks_push]
    exact ⟨rfl, hle, hpending⟩
  | write before n after =>
    rw [Move.marks_write]
    cases hn : l.bound - a with
    | zero =>
      rw [InTurn, hpending, hn] at hm
      cases hm
    | succ j =>
      rw [hn, List.range'_succ] at hpending
      rw [InTurn, hpending] at hm
      cases hm
      refine ⟨rfl, (by omega : a + 1 ≤ l.bound), ?_⟩
      have hrest : l.bound - (a + 1) = j := by omega
      show l.pending.erase (a + 1) = List.range' (a + 1 + 1) (l.bound - (a + 1))
      rw [hpending, List.erase_cons_head, hrest]
  | compile c schema ctx f =>
    rw [Move.marks_compile, List.length_range']
    rcases hm with hm | hm
    · have hbound : l.bound = a := by
        have hlen := congrArg List.length hpending
        rw [hm, List.length_nil, List.length_range'] at hlen
        omega
      refine ⟨by rw [hbound], (by omega : a + _ ≤ l.bound + _), ?_⟩
      show l.pending = List.range' _ (l.bound + _ - (a + _))
      rw [hm, hbound, Nat.sub_self]
      rfl
    · rw [hm]
      refine ⟨rfl, (by omega : a + 0 ≤ l.bound + _), ?_⟩
      show l.pending = List.range' (a + 1) (l.bound + _ - a)
      rw [hm, hpending]
      rfl

/-- A move out of turn writes another placeholder than the next. -/
theorem exists_mark_of_not_inTurn {l : Ledger} {a : Nat} {m : Move} (h : l.Orderly a)
    (ha : l.Allows m) (hm : ¬ l.InTurn m) : ∃ n ns, m.marks l.bound = n :: ns ∧ n ≠ a + 1 := by
  obtain ⟨hle, hpending⟩ := h
  cases m with
  | bind v => exact absurd trivial hm
  | push sql => exact absurd trivial hm
  | write before n after =>
    refine ⟨n, [], Move.marks_write .., ?_⟩
    rintro rfl
    refine hm ?_
    cases hn : l.bound - a with
    | zero =>
      have hmem := ha.1
      rw [hpending, hn] at hmem
      cases hmem
    | succ j => rw [InTurn, hpending, hn, List.range'_succ, List.head?_cons]
  | compile c schema ctx f =>
    obtain ⟨hne, hbinds⟩ := not_or.mp hm
    rw [Move.marks_compile]
    obtain ⟨j, hj⟩ := Nat.exists_eq_succ_of_ne_zero hbinds
    refine ⟨l.bound + 1, List.range' (l.bound + 1 + 1) j, by rw [hj, List.range'_succ], ?_⟩
    intro heq
    refine hne ?_
    have hzero : l.bound - a = 0 := by omega
    rw [hpending, hzero]
    rfl

/-- Question marks are in the order of their parameters exactly if each is written in its turn. -/
theorem marks_iff_inTurn {l : Ledger} {a : Nat} {ms : List Move} (h : l.Orderly a)
    (ha : Along Allows l ms) :
    l.marks ms = List.range' (a + 1) (l.marks ms).length ↔ Along InTurn l ms := by
  induction ms generalizing l a with
  | nil => exact iff_of_true rfl trivial
  | cons m ms ih =>
    rw [marks_cons, List.length_append]
    by_cases hm : l.InTurn m
    · obtain ⟨hmarks, hnext⟩ := orderly_enter h hm
      have hrest := ih hnext ha.2
      rw [Nat.add_right_comm] at hrest
      rw [← List.range'_append_1, ← hmarks, List.append_right_inj, hrest, Along, and_iff_right hm]
    · obtain ⟨n, ns, hmarks, hn⟩ := exists_mark_of_not_inTurn h ha.1 hm
      refine iff_of_false (fun heq => ?_) fun hall => hm hall.1
      rw [hmarks, List.length_cons, Nat.add_right_comm, List.range'_succ] at heq
      exact hn (List.cons.inj heq).1

/-- A placeholder that is handed out is pending until it is written. -/
theorem length_marks_enter {l : Ledger} {m : Move} (h : l.Allows m) :
    (m.marks l.bound).length + (l.enter m).pending.length
      = l.pending.length + m.binds l.bound := by
  cases m with
  | bind v => simp [enter, Move.binds, Move.step, QueryStep.contribution]
  | push sql => simp [enter, Move.binds, Move.step, QueryStep.contribution]
  | write before n after =>
    have hpos := List.length_pos_of_mem h.1
    rw [Move.marks_write, List.length_singleton]
    show 1 + (l.pending.erase n).length = l.pending.length
    rw [List.length_erase_of_mem h.1]
    omega
  | compile c schema ctx f =>
    rw [Move.marks_compile, List.length_range']
    exact Nat.add_comm _ _

/-- There is a question mark for every parameter whose placeholder is not pending. -/
theorem length_marks_run {l : Ledger} {ms : List Move} (h : Along Allows l ms) :
    (l.marks ms).length + (l.run ms).pending.length + l.bound
      = l.pending.length + (l.run ms).bound := by
  induction ms generalizing l with
  | nil => exact congrArg (· + l.bound) (Nat.zero_add _)
  | cons m ms ih =>
    have hm := length_marks_enter h.1
    have hms := ih h.2
    have hbound : (l.enter m).bound = l.bound + m.binds l.bound := rfl
    have hrun : l.run (m :: ms) = (l.enter m).run ms := rfl
    rw [marks_cons, List.length_append, hrun]
    omega

theorem sound_entries {l : Ledger} {ms : List Move} (h : Along Allows l ms) :
    ∀ e ∈ l.entries ms, e.Sound := by
  induction ms generalizing l with
  | nil => exact fun e he => absurd he List.not_mem_nil
  | cons m ms ih =>
    intro e he
    rcases List.mem_append.mp he with he | he
    · exact Move.sound_entries l.bound h.1 e he
    · exact ih h.2 e he

/-- What moves contribute to a query is what is entered. -/
theorem concat_contributions (l : Ledger) (ms : List Move) :
    let c := Contribution.concat (contributions .sqlite l.bound (ms.map Move.step))
    c.predicates = (l.entries ms).map Entry.text
      ∧ l.bound + c.params.length = (l.run ms).bound := by
  induction ms generalizing l with
  | nil => exact ⟨rfl, rfl⟩
  | cons m ms ih =>
    obtain ⟨hp, hb⟩ := ih (l.enter m)
    refine ⟨?_, ?_⟩
    · show (m.step.contribution .sqlite l.bound).predicates ++ _ = _
      rw [Move.predicates_contribution, entries, List.map_append]
      exact congrArg _ hp
    · show l.bound + (_ ++ _ : List Value).length = _
      rw [List.length_append, ← Nat.add_assoc]
      exact hb

end Ledger

/-- The question marks of a finished query, if the placeholder of every value that was bound was
written once. There are as many as parameters. They are those of the parameters in order exactly if
each placeholder was written in its turn: before any that was handed out later, and before a filter
with values was compiled. -/
theorem marks_in_order_iff (select : String) (ms : List Move) (hs : Bare select)
    (h : Ledger.Along Ledger.Allows .empty ms) (hdone : (Ledger.empty.run ms).pending = []) :
    let built := ((Query.new .sqlite select).run (ms.map Move.step)).1.build
    let ts := trace select (Ledger.empty.entries ms)
    tokens? built.sql = some (ts.map Traced.token)
      ∧ (ts.map Traced.token).count (.symbol '?') = built.params.length
      ∧ (marks ts = List.range' 1 built.params.length ↔ Ledger.Along Ledger.InTurn .empty ms) := by
  intro built ts
  have hsound := Ledger.sound_entries h
  obtain ⟨hpredicates, hbound⟩ := Ledger.empty.concat_contributions ms
  have hrun := (Query.new .sqlite select).run_eq (ms.map Move.step)
  have hmarks : marks ts = Ledger.empty.marks ms := by
    rw [show marks ts = _ from marks_append .., marks_ofText, marks_conjoined]
    rfl
  have hparams : (Ledger.empty.marks ms).length = built.params.length := by
    have hlen := Ledger.length_marks_run h
    rw [hdone, ← hbound] at hlen
    show _ = ((Query.new .sqlite select).run (ms.map Move.step)).1.params.length
    rw [hrun]
    simpa [Ledger.empty, Query.extend, Query.new] using hlen
  refine ⟨?_, ?_, ?_⟩
  · show tokens? ((Query.new .sqlite select).run (ms.map Move.step)).1.build.sql = _
    rw [hrun]
    exact tokens?_build hs ((List.nil_append _).trans hpredicates) hsound
  · rw [count_trace hs hsound, ← hparams]; rfl
  · rw [hmarks, ← hparams]
    exact Ledger.marks_iff_inTurn Ledger.orderly_empty h

/-- A filter that is compiled between two values that are bound. -/
def aroundFilter : List Move :=
  [.bind (.text "acme"), .write "tenant = " 1 "",
    .compile (.mk .sqlite .bundled .utc "me" none) labels ⟨none, ⟨0, 0⟩⟩ justNew,
    .bind (.int 10), .write "(size > " 5 " OR size IS NULL)"]

/-- Each placeholder is written before the next is handed out. -/
theorem marks_in_order_aroundFilter :
    let built := ((Query.new .sqlite "SELECT 1").run (aroundFilter.map Move.step)).1.build
    let ts := trace "SELECT 1" (Ledger.empty.entries aroundFilter)
    tokens? built.sql = some (ts.map Traced.token) ∧ marks ts = List.range' 1 built.params.length
      ∧ built.params.length = 5 := by
  intro built ts
  obtain ⟨htokens, -, horder⟩ := marks_in_order_iff "SELECT 1" aroundFilter (by decide)
    ⟨trivial, ⟨by decide, by decide, by decide⟩, trivial, trivial,
      ⟨by decide, by decide, by decide⟩, trivial⟩ rfl
  exact ⟨htokens, horder.mpr ⟨trivial, rfl, .inl rfl, trivial, rfl, trivial⟩, rfl⟩

/-- Names. -/
def nameColumn : Schema :=
  Schema.ofList [{ id := "name", dbName := "name", semanticType := .text }]

/-- The name is red. -/
def nameIsRed : Filter := .leaf { columnId := "name", operator := "equals", value := .str "red" }

/-- A placeholder that is written only after a filter was compiled. -/
def pastFilter : List Move :=
  [.bind (.int 4),
    .compile (.mk .sqlite .bundled .utc "me" none) nameColumn ⟨none, ⟨0, 0⟩⟩ nameIsRed,
    .write "score > " 1 ""]

/-- The first question mark is that of the second parameter. -/
theorem not_marks_in_order :
    ¬ ∀ (select : String) (ms : List Move), Bare select → Ledger.Along Ledger.Allows .empty ms →
      (Ledger.empty.run ms).pending = [] →
      marks (trace select (Ledger.empty.entries ms)) = List.range' 1
        ((Query.new .sqlite select).run (ms.map Move.step)).1.build.params.length := by
  intro hall
  have hmarks := hall "SELECT 1" pastFilter (by decide)
    ⟨trivial, trivial, ⟨by decide, by decide, by decide⟩, trivial⟩ rfl
  exact absurd hmarks (by decide)

end RowFilter
