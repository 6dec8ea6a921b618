import RowFilter.Proofs.Requirement
import RowFilter.Proofs.Wording
/-!
# The vocabulary of compiled filters

Apart from placeholders, the text of a filter holds no identifier but the name of the table
and the names of columns, no literal but a fixed few, and no token that could be read as a
placeholder. `Predicate.Fits` says which predicates the two dialects make; the tokens of such
a predicate are `Allowed`.

Results:
* `fits_predicate`: the predicate of a requirement fits its dialect and names only its column.
* `allowed_words`: the tokens of a predicate that fits.
* `allowed_plan`: the tokens of a plan, all of whose predicates fit.
-/
namespace RowFilter.Sql

/-! ## Tokens -/

/-- The literals of path searches for numbers and for dates. -/
def pathLiterals : List String :=
  ["$[*] ? (@ == $v)", "$[*] ? (@ < $v)", "$[*] ? (@ <= $v)", "$[*] ? (@ > $v)",
    "$[*] ? (@ >= $v)", "$[*] ? (@ >= $start && @ <= $end)", "$[*] ? (@ < $start)",
    "$[*] ? (@ >= $start)", "$[*] ? (@ > $end)", "$[*] ? (@ <= $end)"]

/-- The literals of compiled filters. -/
def literals : List String :=
  ["", "\\", "id", "title", "$.id", "$.title", "true", "v", "start", "end", "$[*] ? (@ == true)"]
    ++ pathLiterals

namespace Token

/-- Whether a token may stand in a text whatever the table and the columns are. -/
def isFixed (d : Dialect) : Token → Bool
  | identifier _ | numbered _ => false
  | literal s => s ∈ literals
  | word _ => true
  | symbol c => c ≠ '?' || d = .postgres

/-- A token of a text about a table and columns of the given names. -/
def Allowed (d : Dialect) (names : List String) (t : Token) : Prop :=
  t.isFixed d = true ∨ ∃ name ∈ names, t = identifier name

theorem isFixed_of_sqlite {t : Token} (d : Dialect) (h : t.isFixed .sqlite = true) :
    t.isFixed d = true := by
  cases t with
  | symbol c => cases d <;> simp_all [isFixed]
  | _ => exact h

end Token

/-- Tokens of a text about a table and columns of the given names. -/
def Allowed (d : Dialect) (names : List String) (ts : List Token) : Prop :=
  ∀ t ∈ ts, t.Allowed d names

namespace Allowed

variable {d : Dialect} {names : List String} {ts us : List Token}

theorem append (ht : Allowed d names ts) (hu : Allowed d names us) : Allowed d names (ts ++ us) := by
  intro t h
  exact (List.mem_append.mp h).elim (ht t) (hu t)

theorem nil : Allowed d names [] := fun _ h => absurd h List.not_mem_nil

/-- A text that says nothing of tables, columns or values. -/
theorem said {a : String} (h : (said a).all (Token.isFixed .sqlite) = true) :
    Allowed d names (said a) :=
  fun t ht => .inl (Token.isFixed_of_sqlite d (List.all_eq_true.mp h t ht))

theorem then_said {a : String} (ht : Allowed d names ts)
    (h : (Sql.said a).all (Token.isFixed .sqlite) = true) : Allowed d names (ts ++ Sql.said a) :=
  .append ht (.said h)

/-- Tokens between two such texts. -/
theorem enclosed {a b : String} (ha : (Sql.said a).all (Token.isFixed .sqlite) = true)
    (ht : Allowed d names ts) (hb : (Sql.said b).all (Token.isFixed .sqlite) = true) :
    Allowed d names (Sql.said a ++ (ts ++ Sql.said b)) :=
  .append (.said ha) (.then_said ht hb)

theorem commas (n : Nat) : Allowed d names (commas n) := by
  intro t h
  rw [List.eq_of_mem_replicate h]
  exact .inl (Token.isFixed_of_sqlite d (by decide))

end Allowed

/-! ## Terms -/

/-- The names a term is made of. -/
def Term.names : Term → List String
  | column table name => table.toList ++ [name]
  | element => []
  | field t _ | asText t | ids t => t.names

theorem allowed_term {d : Dialect} {names : List String} {t : Term}
    (h : ∀ name ∈ t.names, name ∈ names) : Allowed d names (t.tokens d) := by
  induction t with
  | column table name =>
    have hn : Token.Allowed d names (.identifier name) := .inr ⟨name, h name (by simp [Term.names]), rfl⟩
    cases table with
    | none =>
      intro t ht
      rw [List.mem_singleton.mp ht]
      exact hn
    | some table =>
      have ht : Token.Allowed d names (.identifier table) :=
        .inr ⟨table, h table (by simp [Term.names]), rfl⟩
      intro t hmem
      simp only [Term.tokens, Option.map_some, Option.getD_some, List.cons_append,
        List.nil_append, List.mem_cons, List.not_mem_nil, or_false] at hmem
      rcases hmem with rfl | rfl | rfl
      · exact ht
      · exact .inl (Token.isFixed_of_sqlite d (by decide))
      · exact hn
  | element => cases d <;> exact .said (by decide)
  | field t key ih =>
    cases d with
    | postgres => cases key <;> exact .then_said (ih h) (by decide)
    | sqlite => cases key <;> exact .enclosed (by decide) (ih h) (by decide)
  | asText t ih => exact .enclosed (by decide) (ih h) (by decide)
  | ids t ih => exact .enclosed (by decide) (ih h) (by decide)

/-! ## Predicates -/

namespace Predicate

/-- Whether a placeholder of the predicate stands for the value of the one before. -/
def repeats : Predicate → Bool
  | sameMembers _ _ => true
  | _ => false

/-- A predicate that a dialect makes of columns of the given names. -/
def Fits (d : Dialect) (names : List String) : Predicate → Prop
  | isTrue t | compare _ t _ | between t _ _ | like t _ | inList t _ | outsideList t _
  | equalsAny t _ | isNull t | isNotNull t | isBlank t | isNotBlank t | hasNoElements t
  | hasElements t | pathIsTrue t | hasMember t _ => ∀ name ∈ t.names, name ∈ names
  | hasAnyMember t _ | hasAllMembers t _ | sameMembers t _ =>
    d = .postgres ∧ ∀ name ∈ t.names, name ∈ names
  | pathExists t tests => path tests ∈ pathLiterals ∧ ∀ name ∈ t.names, name ∈ names
  | elementIsTrue => True
  | notTrue p => p.repeats = false ∧ p.Fits d names
  | someElement _ array p | noElement _ array p =>
    (∀ name ∈ array.names, name ∈ names) ∧ p.repeats = false ∧ p.Fits d names
  | countsAll member array _ =>
    (∀ name ∈ member.names, name ∈ names) ∧ ∀ name ∈ array.names, name ∈ names
  | both p q => (p.repeats = false ∧ p.Fits d names) ∧ q.repeats = false ∧ q.Fits d names

variable {d : Dialect} {names : List String}

theorem allowed_listing (l : Listing) {array : List Token} (h : Allowed d names array) :
    Allowed d names (l.tokens array) := by
  cases l <;> exact .enclosed (by decide) h (by decide)

theorem allowed_argument (t : PathTest) : Allowed d names t.argument.words := by
  have hn : Allowed d names (said ("'" ++ t.name.text ++ "', ")) := by
    cases t.name <;> exact .said (by decide)
  have hc : Allowed d names (said ("::" ++ t.value.cast)) := by
    cases t.value <;> simp only [PathValue.cast] <;> exact .said (by decide)
  exact .append hn (.append hc .nil)

theorem allowed_arguments (tests : List PathTest) :
    Allowed d names (Template.join ", " (tests.map PathTest.argument)).words := by
  refine Template.join_induction (P := fun t => Allowed d names t.words) .nil ?_ ?_
  · intro t u ht hu
    have hcomma : Allowed d names (said ", ") := .said (by decide)
    rw [Template.words_append]
    exact .append ht (.append hcomma hu)
  · intro t ht
    obtain ⟨test, -, rfl⟩ := List.mem_map.mp ht
    exact allowed_argument test

/-- What stands after the term in a list of texts. -/
theorem allowed_list (n : Nat) : Allowed d names (commas n ++ said ")") :=
  .then_said (.commas n) (by decide)

theorem allowed_words (p : Predicate) (h : p.Fits d names) : Allowed d names (p.words d) := by
  induction p with
  | isTrue t => cases d <;> exact .then_said (allowed_term h) (by decide)
  | compare c t v => cases c <;> exact .then_said (allowed_term h) (by decide)
  | between t low high => exact .then_said (.then_said (allowed_term h) (by decide)) (by decide)
  | like t pattern =>
    have hk : Allowed d names (said d.likeKeyword) := by cases d <;> exact .said (by decide)
    exact .then_said (.append (allowed_term h) hk) (by decide)
  | inList t vs => exact .append (.then_said (allowed_term h) (by decide)) (allowed_list _)
  | outsideList t vs =>
    have ht := allowed_term (d := d) h
    have hor : Allowed d names (said " IS NULL OR " ++ (t.tokens d ++ said " NOT IN (")) :=
      .enclosed (by decide) ht (by decide)
    exact .append (.append ht hor) (allowed_list _)
  | equalsAny t vs => exact .then_said (.then_said (allowed_term h) (by decide)) (by decide)
  | isNull t => exact .then_said (allowed_term h) (by decide)
  | isNotNull t => exact .then_said (allowed_term h) (by decide)
  | isBlank t =>
    have ht := allowed_term (d := d) h
    have hor : Allowed d names (said " IS NULL OR " ++ (t.tokens d ++ said " = '')")) :=
      .enclosed (by decide) ht (by decide)
    exact .append (.said (by decide)) (.append ht hor)
  | isNotBlank t => exact .then_said (allowed_term h) (by decide)
  | hasNoElements t =>
    have ht := allowed_term (d := d) h
    have hl : Allowed d names (said (arrayLengthText d)) := by cases d <;> exact .said (by decide)
    have hor : Allowed d names (said " IS NULL OR " ++ (said (arrayLengthText d)
        ++ (t.tokens d ++ said ") = 0)"))) :=
      .append (.said (by decide)) (.append hl (.then_said ht (by decide)))
    exact .append (.said (by decide)) (.append ht hor)
  | hasElements t =>
    have hl : Allowed d names (said (arrayLengthText d)) := by cases d <;> exact .said (by decide)
    exact .append hl (.then_said (allowed_term h) (by decide))
  | elementIsTrue => exact .said (by decide)
  | notTrue p ih =>
    have hp := ih h.2
    cases d <;> exact .enclosed (by decide) hp (by decide)
  | someElement l array p ih =>
    have hl := allowed_listing (d := d) l (allowed_term h.1)
    exact .append (.enclosed (by decide) hl (by decide)) (.then_said (ih h.2.2) (by decide))
  | noElement l array p ih =>
    have hl := allowed_listing (d := d) l (allowed_term h.1)
    exact .append (.enclosed (by decide) hl (by decide)) (.then_said (ih h.2.2) (by decide))
  | pathIsTrue t => exact .enclosed (by decide) (allowed_term h) (by decide)
  | pathExists t tests =>
    have hpath : Allowed d names [.literal (path tests)] := by
      intro t ht
      rw [List.mem_singleton.mp ht]
      exact .inl (decide_eq_true (List.mem_append_right _ h.1))
    have ht := allowed_term (d := d) h.2
    have hopen : Allowed d names (said ", " ++ ([.literal (path tests)]
        ++ said ", jsonb_build_object(")) :=
      .enclosed (by decide) hpath (by decide)
    exact .append (.append (.said (by decide)) (.append ht hopen))
      (.then_said (allowed_arguments tests) (by decide))
  | hasMember t v => exact .then_said (.then_said (allowed_term h) (by decide)) (by decide)
  | hasAnyMember t vs =>
    obtain ⟨rfl, h⟩ := h
    have hs : (said " ?| ").all (Token.isFixed .postgres) = true := by decide
    exact .append (allowed_term h) fun t ht => .inl (List.all_eq_true.mp hs t ht)
  | hasAllMembers t vs =>
    obtain ⟨rfl, h⟩ := h
    have hs : (said " ?& ").all (Token.isFixed .postgres) = true := by decide
    exact .append (allowed_term h) fun t ht => .inl (List.all_eq_true.mp hs t ht)
  | sameMembers t vs =>
    have ht := allowed_term (d := d) h.2
    exact .append (.enclosed (by decide) ht (by decide))
      (.then_said (.enclosed (by decide) ht (by decide)) (by decide))
  | countsAll member array vs =>
    have hm := allowed_term (d := d) h.1
    have hl := allowed_listing (d := d) .each (allowed_term h.2)
    have hin : Allowed d names (said " WHERE " ++ (member.tokens d ++ said " IN (")) :=
      .enclosed (by decide) hm (by decide)
    have hfrom : Allowed d names (said ") FROM " ++ (Listing.each.tokens (array.tokens d)
        ++ (said " WHERE " ++ (member.tokens d ++ said " IN (")))) :=
      .append (.said (by decide)) (.append hl hin)
    exact .append (.append (.said (by decide)) (.append hm hfrom))
      (.then_said (.commas _) (by decide))
  | both p q ihp ihq =>
    have hand : Allowed d names (said " AND " ++ q.words d) :=
      .append (.said (by decide)) (ihq h.2.2)
    exact .append (.said (by decide)) (.then_said (.append (ihp h.1.2) hand) (by decide))

/-- Fits and stands for itself wherever a predicate may. -/
def FitsInside (d : Dialect) (names : List String) (p : Predicate) : Prop :=
  p.repeats = false ∧ p.Fits d names

theorem FitsInside.complement {p : Predicate} (h : p.FitsInside d names) :
    p.complement.FitsInside d names := by
  cases p with
  | someElement l array p => exact ⟨rfl, h.2⟩
  | _ => exact ⟨rfl, h⟩

theorem path_one (c : Comparison) (name : PathVariable) (v : PathValue) :
    path [⟨c, name, v⟩] = "$[*] ? (" ++ ("@ " ++ c.path ++ " $" ++ name.text ++ ")") := by
  rw [path, List.map_cons, List.map_nil, String.intercalate_singleton, PathTest.pathText]

theorem path_two (c c' : Comparison) (name name' : PathVariable) (v v' : PathValue) :
    path [⟨c, name, v⟩, ⟨c', name', v'⟩] = "$[*] ? (" ++ ("@ " ++ c.path ++ " $" ++ name.text
      ++ " && " ++ ("@ " ++ c'.path ++ " $" ++ name'.text) ++ ")") := by
  rw [path, List.map_cons, List.map_cons, List.map_nil, String.intercalate_cons_cons,
    String.intercalate_singleton, PathTest.pathText, PathTest.pathText]

theorem path_number_mem (c : Comparison) (v : PathValue) : path [⟨c, .v, v⟩] ∈ pathLiterals := by
  rw [path_one]
  cases c <;> decide

end Predicate

/-! ## The predicates of requirements -/

section

variable {names : List String} {t : Term} (kind : CellKind) (h : ∀ name ∈ t.names, name ∈ names)
include h

theorem Postgres.fits_cellTest (test : ValueTest) :
    (Postgres.cellTest kind t test).FitsInside .postgres names := by
  have hi : ∀ name ∈ (Postgres.identity kind t).names, name ∈ names := by cases kind <;> exact h
  have hs : ∀ name ∈ (Postgres.searched kind t).names, name ∈ names := by cases kind <;> exact h
  cases test with
  | equals s => exact ⟨rfl, hi⟩
  | contains s => exact ⟨rfl, hs⟩
  | oneOf ss => exact ⟨rfl, hi⟩
  | _ => exact ⟨rfl, h⟩

theorem Postgres.fits_listTest (test : ValueTest) :
    (Postgres.listTest kind t test).FitsInside .postgres names := by
  have hm : ∀ name ∈ (Postgres.members kind t).names, name ∈ names := by cases kind <;> exact h
  have he : ∀ name ∈ (Postgres.searched kind .element).names, name ∈ names := by
    cases kind <;> exact fun _ hn => absurd hn List.not_mem_nil
  cases test with
  | isTrue => exact ⟨rfl, h⟩
  | number c x => exact ⟨rfl, Predicate.path_number_mem c _, h⟩
  | equals s => exact ⟨rfl, hm⟩
  | contains s => exact ⟨rfl, h, rfl, he⟩
  | oneOf ss => exact ⟨rfl, rfl, hm⟩
  | during start stop =>
    refine ⟨rfl, ?_, h⟩
    rw [Postgres.instantTest, Postgres.instantTest, Predicate.path_two]
    decide
  | _ =>
    refine ⟨rfl, ?_, h⟩
    rw [Postgres.instantTest, Predicate.path_one]
    decide

theorem Postgres.fits_predicate {n : Cardinality} (q : Criterion n) :
    (Postgres.predicate kind t q).Fits .postgres names := by
  have hm : ∀ name ∈ (Postgres.members kind t).names, name ∈ names := by cases kind <;> exact h
  have hc := Postgres.fits_cellTest kind h
  have hl := Postgres.fits_listTest kind h
  cases q with
  | passes test =>
    cases n with
    | single => exact (hc test).2
    | multi => exact (hl test).2
  | fails test =>
    cases n with
    | single => exact (hc test).complement.2
    | multi => exact (hl test).complement.2
  | isEmpty => cases n <;> cases kind <;> exact h
  | isNotEmpty => cases n <;> cases kind <;> exact h
  | hasAll ss => exact ⟨rfl, hm⟩
  | hasExactly ss => exact ⟨rfl, hm⟩

theorem Sqlite.fits_valueTest (test : ValueTest) :
    (Sqlite.valueTest kind t test).FitsInside .sqlite names := by
  have hi : ∀ name ∈ (Sqlite.identity kind t).names, name ∈ names := by cases kind <;> exact h
  have hs : ∀ name ∈ (Sqlite.searched kind t).names, name ∈ names := by cases kind <;> exact h
  cases test with
  | equals s => exact ⟨rfl, hi⟩
  | contains s => exact ⟨rfl, hs⟩
  | oneOf ss => exact ⟨rfl, hi⟩
  | _ => exact ⟨rfl, h⟩

theorem Sqlite.fits_listTest (test : ValueTest) :
    (Sqlite.listTest kind t test).FitsInside .sqlite names := by
  have he : ∀ name ∈ Term.element.names, name ∈ names := fun _ hn => absurd hn List.not_mem_nil
  cases test with
  | isTrue => exact ⟨rfl, h, rfl, trivial⟩
  | _ => exact ⟨rfl, h, Sqlite.fits_valueTest kind he _⟩

theorem Sqlite.fits_predicate {n : Cardinality} (q : Criterion n) :
    (Sqlite.predicate kind t q).Fits .sqlite names := by
  have he : ∀ name ∈ (Sqlite.identity kind .element).names, name ∈ names := by
    cases kind <;> exact fun _ hn => absurd hn List.not_mem_nil
  have hc := Sqlite.fits_valueTest kind h
  have hl := Sqlite.fits_listTest kind h
  cases q with
  | passes test =>
    cases n with
    | single => exact (hc test).2
    | multi => exact (hl test).2
  | fails test =>
    cases n with
    | single => exact (hc test).complement.2
    | multi => exact (hl test).complement.2
  | isEmpty => cases n <;> cases kind <;> exact h
  | isNotEmpty => cases n <;> cases kind <;> exact h
  | hasAll ss => exact ⟨he, h⟩
  | hasExactly ss => exact ⟨⟨rfl, he, h⟩, rfl, h, rfl, he⟩

end

end RowFilter.Sql

namespace RowFilter

open Sql

/-- The names in the predicate of a requirement. -/
def Requirement.names (table : Option String) (r : Requirement) : List String :=
  table.toList ++ [r.column.dbName]

theorem Requirement.fits_predicate {names : List String} {table : Option String} {r : Requirement}
    (h : ∀ name ∈ r.names table, name ∈ names) (d : Dialect) : (r.predicate d table).Fits d names := by
  cases d with
  | postgres =>
    exact Postgres.fits_predicate (t := .column table r.column.dbName) _ h r.criterion
  | sqlite =>
    exact Sqlite.fits_predicate (t := .column table r.column.dbName) _ h r.criterion

/-! ## Plans -/

namespace Plan

variable {d : Dialect} {names : List String}

theorem allowed_join (c : Conjunction) {ts : List Template}
    (h : ∀ t ∈ ts, Allowed d names t.words) : Allowed d names (Template.join c.sql ts).words := by
  refine Template.join_induction (P := fun t => Allowed d names t.words) .nil ?_ h
  intro t u ht hu
  have hc : Allowed d names (said c.sql) := by cases c <;> exact .said (by decide)
  rw [Template.words_append]
  exact .append ht (.append hc hu)

theorem allowed_plan (t : Plan) (h : ∀ p ∈ t.leaves, p.Fits d names) :
    Allowed d names (template d t).words := by
  refine template_induction (P := fun t => Allowed d names t.words) (fun c ts hts => ?_) t ?_
  · rw [Template.parens, Template.words, Template.words_append]
    have hclose : Allowed d names (said ")" ++ []) := .append (.said (by decide)) .nil
    exact .append (.said (by decide)) (.append (allowed_join c hts) hclose)
  · intro p hp
    rw [(Predicate.reads_template d p).2]
    exact Predicate.allowed_words p (h p hp)

end Plan

end RowFilter
