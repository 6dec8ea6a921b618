import RowFilter.Calendar.Zone.Database
import RowFilter.Proofs.Patterns
import RowFilter.Proofs.Places
/-!
# Values of the type their place asks for

The parameters of a compiled filter are one list, and only the SQL around a placeholder says what
type its value must have: PostgreSQL refuses another type, SQLite finds no row. `Suits` lists the
places that a value of each type may stand in.

Results:
* `Criterion.fitsKind_of_read?`: what a criterion that was read compares with.
* `Suits.pattern`: what stands after LIKE is a pattern with a run at both ends.
* `Requirement.placed`: the values of one condition.
* `values_suit`: the values of a compiled filter.
-/
namespace RowFilter

open Sql

/-! ## Places -/

/-- What a condition compares where it compares values: those of the column, or the elements of its
lists. -/
def compared (table : Option String) (column : Column) : Term :=
  match column.cardinality with
  | .single => .column table column.dbName
  | .multi => .element

/-- What a dialect compares texts with. -/
def Sql.Dialect.identity (d : Dialect) (kind : CellKind) (t : Term) : Term :=
  match d with
  | .postgres => Postgres.identity kind t
  | .sqlite => Sqlite.identity kind t

/-- What a dialect searches texts in. -/
def Sql.Dialect.searched (d : Dialect) (kind : CellKind) (t : Term) : Term :=
  match d with
  | .postgres => Postgres.searched kind t
  | .sqlite => Sqlite.searched kind t

/-- The column holds texts, or objects that are told by a text. -/
def IsTextual (kind : CellKind) : Prop := kind = .text ∨ kind = .structured

/-- A pattern with a run at both ends. -/
def IsPattern (s : String) : Prop :=
  ∃ ps, Text.Like.parts? s.toList = some (.run :: (ps ++ [.run]))

/-- Whether a value may stand between the items before and after it, in a condition that asks
`op` of a column. -/
def Suits (d : Dialect) (table : Option String) (column : Column) (op : Operator)
    (before : List Item) (v : Value) (after : List Item) : Prop :=
  let term := (compared table column).tokens d
  match v with
  | .float x =>
    -- Compared with a number; in a PostgreSQL array under `::float8`.
    x.isFinite = true ∧ column.kind = .number ∧ ∃ c : Comparison,
      if d = .postgres ∧ column.cardinality = .multi then
        Ends before (numberSearch ((Term.column table column.dbName).tokens d) c)
          ∧ Begins after (said "::float8")
      else Ends before (term ++ said c.sql)
  | .timestamp _ =>
    -- Compared with a date; in PostgreSQL with one of a single-valued column only.
    column.kind = .datetime ∧ (d = .postgres → column.cardinality = .single)
      ∧ ((∃ c : Comparison, Ends before (term ++ said c.sql)) ∨ Ends before (term ++ said " BETWEEN ")
        ∨ ∃ low, plain (term ++ said " BETWEEN ") ++ .value (.timestamp low) :: plain (said " AND ")
          <:+ before)
  | .text s =>
    -- Equal to a text, like it, cast to one, or in a list of them in SQLite.
    (IsTextual column.kind
        ∧ Ends before ((d.identity column.kind (compared table column)).tokens d ++ said "="))
      ∨ (IsTextual column.kind ∧ IsPattern s ∧ Begins after (said Dialect.likeEscape) ∧ Ends before
        ((d.searched column.kind (compared table column)).tokens d ++ said d.likeKeyword))
      ∨ (d = .postgres ∧ column.cardinality = .multi ∧ Begins after (said "::text")
        ∧ (IsTextual column.kind ∧ Ends before (said "jsonb_build_array(")
          ∨ column.kind = .datetime
            ∧ ∃ name : PathVariable, Ends before [.literal name.text, .symbol ',']))
      ∨ (d = .sqlite ∧ IsTextual column.kind ∧ ∃ us, plain (said " IN (") ++ listed us <:+ before)
  | .textArray _ =>
    d = .postgres ∧ IsTextual column.kind ∧ (Ends before (said " = ANY(") ∧ Begins after (said ")")
      ∨ Ends before (said " ?| ") ∨ Ends before (said " ?& "))
  | .json _ =>
    d = .postgres ∧ op = .exactly ∧ Begins after (said "::jsonb")
      ∧ (Ends before (said " @> ") ∨ Ends before (said " <@ "))
  | .int n =>
    -- As many as there are texts in the list before it.
    d = .sqlite ∧ (op = .allOf ∨ op = .exactly)
      ∧ ∃ (member array : Term) (ss : List String), n = ss.length
        ∧ plain (countSearch (member.tokens d) (array.tokens d)) ++ listItems ss
          ++ plain (said ")) = ") <:+ before
  | .bool _ => False

theorem Sql.local_suits (d : Dialect) (table : Option String) (column : Column) (op : Operator) :
    Local (Suits d table column op) := by
  intro before v after h is js
  have hends {ts : List Token} (h : Ends before ts) : Ends (is ++ before) ts := h.append is
  have hbegins {ts : List Token} (h : Begins after ts) : Begins (after ++ js) ts := h.append js
  have hsuffix {l : List Item} (h : l <:+ before) : l <:+ is ++ before :=
    h.trans (List.suffix_append is before)
  cases v with
  | float x =>
    obtain ⟨hx, hkind, c, h⟩ := h
    refine ⟨hx, hkind, c, ?_⟩
    split at h
    · rw [if_pos ‹_›]
      exact ⟨hends h.1, hbegins h.2⟩
    · rw [if_neg ‹_›]
      exact hends h
  | timestamp t =>
    obtain ⟨hkind, hsingle, ⟨c, h⟩ | h | ⟨low, h⟩⟩ := h
    · exact ⟨hkind, hsingle, .inl ⟨c, hends h⟩⟩
    · exact ⟨hkind, hsingle, .inr (.inl (hends h))⟩
    · exact ⟨hkind, hsingle, .inr (.inr ⟨low, hsuffix h⟩)⟩
  | text s =>
    obtain ⟨hkind, h⟩ | ⟨hkind, hs, ha, h⟩ | ⟨hd, hn, ha, h⟩ | ⟨hd, hkind, us, h⟩ := h
    · exact .inl ⟨hkind, hends h⟩
    · exact .inr (.inl ⟨hkind, hs, hbegins ha, hends h⟩)
    · refine .inr (.inr (.inl ⟨hd, hn, hbegins ha, h.imp (.imp_right hends) (.imp_right ?_)⟩))
      exact fun ⟨name, h⟩ => ⟨name, hends h⟩
    · exact .inr (.inr (.inr ⟨hd, hkind, us, hsuffix h⟩))
  | textArray ss =>
    obtain ⟨hd, hkind, h⟩ := h
    exact ⟨hd, hkind, h.imp (And.imp hends hbegins) (Or.imp hends hends)⟩
  | json j =>
    obtain ⟨hd, hop, ha, h⟩ := h
    exact ⟨hd, hop, hbegins ha, h.imp hends hends⟩
  | int n =>
    obtain ⟨hd, hop, member, array, ss, hn, h⟩ := h
    exact ⟨hd, hop, member, array, ss, hn, hsuffix h⟩
  | bool b => exact h

/-- What stands after LIKE is a pattern: no other place has this word before it. -/
theorem Suits.pattern {d : Dialect} {table : Option String} {column : Column} {op : Operator}
    {before after : List Item} {v : Value} (h : Suits d table column op before v after)
    (hlike : Ends before (said d.likeKeyword)) : ∃ s, v = .text s ∧ IsPattern s := by
  -- The item before is the word, so no other can be.
  obtain ⟨w, hw, hword⟩ : ∃ w, (said d.likeKeyword).getLast? = some (.word w)
      ∧ w ≠ "AND" ∧ w ≠ "BETWEEN" := by
    cases d
    · exact ⟨"ILIKE", by decide, by decide, by decide⟩
    · exact ⟨"LIKE", by decide, by decide, by decide⟩
  have hlast : before.getLast? = some (.token (.word w)) := hlike.getLast? hw
  have hnot {t : Token} (ht : before.getLast? = some (.token t)) : t = .word w := by
    rw [hlast] at ht
    cases ht
    rfl
  have hsymbol {ts : List Token} {c : Char} (h : Ends before ts)
      (ht : ts.getLast? = some (.symbol c)) : False := by
    cases hnot (h.getLast? ht)
  have hcomparison {ts : List Token} {c : Comparison} (h : Ends before (ts ++ said c.sql)) :
      False := by
    cases c <;> exact hsymbol h.of_append rfl
  cases v with
  | float x =>
    obtain ⟨-, -, c, h⟩ := h
    split at h
    · simp only [numberSearch, ← List.append_assoc] at h
      exact (hsymbol h.1.of_append rfl).elim
    · exact (hcomparison h).elim
  | timestamp t =>
    obtain ⟨-, -, ⟨c, h⟩ | h | ⟨low, h⟩⟩ := h
    · exact (hcomparison h).elim
    · have hbetween : (said " BETWEEN ").getLast? = some (.word "BETWEEN") := rfl
      cases hnot (h.of_append.getLast? hbetween)
      exact absurd rfl hword.2
    · have hand : Ends before (said " AND ") :=
        .trans ⟨plain ((compared table column).tokens d ++ said " BETWEEN ")
          ++ [.value (.timestamp low)], by simp⟩ h
      have hlastWord : (said " AND ").getLast? = some (.word "AND") := rfl
      cases hnot (hand.getLast? hlastWord)
      exact absurd rfl hword.1
  | text s =>
    obtain ⟨-, h⟩ | ⟨-, hs, -⟩ | ⟨-, -, -, ⟨-, h⟩ | ⟨-, name, h⟩⟩ | ⟨-, -, us, h⟩ := h
    · exact (hsymbol h.of_append rfl).elim
    · exact ⟨s, rfl, hs⟩
    · exact (hsymbol h rfl).elim
    · exact (hsymbol h rfl).elim
    · obtain rfl | ⟨us, u, rfl⟩ := List.eq_nil_or_concat us
      · have hopening : Ends before (said " IN (") := by simpa [listed, Ends] using h
        exact (hsymbol hopening rfl).elim
      · have hcomma : Ends before [.symbol ','] :=
          .trans ⟨plain (said " IN (") ++ (listed us ++ [.value (.text u)]), by simp [listed, plain]⟩ h
        exact (hsymbol hcomma rfl).elim
  | textArray ss =>
    obtain ⟨-, -, ⟨h, -⟩ | h | h⟩ := h <;> exact (hsymbol h rfl).elim
  | json j => obtain ⟨-, -, -, h | h⟩ := h <;> exact (hsymbol h rfl).elim
  | int n =>
    obtain ⟨-, -, member, array, ss, -, h⟩ := h
    have hequals : Ends before (said ")) = ") := (List.suffix_append _ _).trans h
    exact (hsymbol hequals rfl).elim
  | bool b => exact h.elim

/-! ## What criteria compare with -/

/-- A number that is compared with is finite. -/
theorem Json.isFinite_of_numberOperand {v : Json} {x : Binary64} (h : v.numberOperand = .ok x) :
    x.isFinite = true := by
  unfold numberOperand at h
  dsimp only at h
  split at h
  · split at h
    · cases h
      assumption
    · cases h
  · cases h

/-- What the test compares with is of a type that cells of the kind hold. -/
def ValueTest.FitsKind (kind : CellKind) : ValueTest → Prop
  | isTrue => True
  | number _ x => kind = .number ∧ x.isFinite = true
  | during _ _ | before _ | onOrAfter _ | after _ | onOrBefore _ => kind = .datetime
  | equals _ | contains _ | oneOf _ => IsTextual kind

namespace Criterion

variable {n : Cardinality}

/-- The criterion of an operator compares with what cells of the kind hold. -/
def FitsKind (kind : CellKind) (op : Operator) : Criterion n → Prop
  | passes t | fails t => t.FitsKind kind
  | isEmpty | isNotEmpty => True
  | hasAll _ => IsTextual kind ∧ op = .allOf
  | hasExactly _ => IsTextual kind ∧ op = .exactly

variable {s : Site} {v : Json} {q : Criterion n}

theorem fitsKind_boolean {op : Operator} (h : readBoolean? op v = some q) :
    q.FitsKind .boolean op := by
  cases hop : op.canonical <;> simp only [readBoolean?, hop, reduceCtorEq] at h <;> cases h <;>
    cases v.truthy <;> trivial

theorem fitsKind_number (h : readNumber? s v = some (.ok q)) : q.FitsKind .number s.op := by
  have hfinite {x : Binary64} (hx : s.operand v.numberOperand = .ok x) : x.isFinite = true :=
    Json.isFinite_of_numberOperand (ok_of_operand hx)
  cases hop : s.op.canonical <;> simp only [readNumber?, hop, reduceCtorEq] at h <;>
    first
      | (obtain ⟨x, hx, rfl⟩ := of_map h; exact ⟨rfl, hfinite hx⟩)
      | (cases h; trivial)

theorem fitsKind_datetime (h : readDatetime? s v = some (.ok q)) : q.FitsKind .datetime s.op := by
  cases hop : s.op.canonical <;> simp only [readDatetime?, hop, reduceCtorEq] at h <;>
    first
      | (obtain ⟨r, -, rfl⟩ := of_map h; exact rfl)
      | (cases h; trivial)

theorem fitsKind_text {kind : CellKind} (hk : IsTextual kind) (h : readText? s v = some (.ok q)) :
    q.FitsKind kind s.op := by
  cases hop : s.op.canonical <;> simp only [readText?, hop, reduceCtorEq] at h <;>
    first
      | (obtain ⟨x, -, rfl⟩ := of_map h; exact hk)
      | (cases h; trivial)

theorem fitsKind_texts {q : Criterion .multi} {kind : CellKind} (hk : IsTextual kind)
    (h : readTexts? s v = some (.ok q)) : q.FitsKind kind s.op := by
  have hself {op : Operator} (hop : s.op.canonical = op) (hlist : op = .allOf ∨ op = .exactly) :
      s.op = op := by
    revert hop
    obtain rfl | rfl := hlist <;> cases s.op <;> decide
  cases hop : s.op.canonical with
  | allOf =>
    simp only [readTexts?, hop] at h
    obtain ⟨ss, -, rfl⟩ := of_map h
    exact ⟨hk, hself hop (.inl rfl)⟩
  | exactly =>
    simp only [readTexts?, hop] at h
    obtain ⟨ss, -, rfl⟩ := of_map h
    exact ⟨hk, hself hop (.inr rfl)⟩
  | _ =>
    simp only [readTexts?, hop] at h
    exact fitsKind_text hk h

/-- What a criterion that was read compares with is of the kind of the cells. -/
theorem fitsKind_of_read? {kind : CellKind} (h : read? kind n s v = some (.ok q)) :
    q.FitsKind kind s.op := by
  cases kind with
  | boolean =>
    obtain ⟨q', hq, heq⟩ := Option.map_eq_some_iff.mp h
    exact fitsKind_boolean (Except.ok.inj heq ▸ hq)
  | number => exact fitsKind_number h
  | datetime => exact fitsKind_datetime h
  | text =>
    cases n with
    | single => exact fitsKind_text (.inl rfl) h
    | multi => exact fitsKind_texts (.inl rfl) h
  | structured =>
    cases n with
    | single => exact fitsKind_text (.inr rfl) h
    | multi => exact fitsKind_texts (.inr rfl) h

end Criterion

/-! ## The values of a condition -/

namespace Sql

variable {table : Option String} {column : Column} {op : Operator}

theorem compared_single (table : Option String) (hn : column.cardinality = .single) :
    compared table column = .column table column.dbName := by rw [compared, hn]

theorem compared_multi (table : Option String) (hn : column.cardinality = .multi) :
    compared table column = .element := by rw [compared, hn]

/-- The complement of a predicate that searches no elements puts a text before it and one after. -/
theorem Placed.complement {P : List Item → Value → List Item → Prop} {d : Dialect} {p : Predicate}
    (hP : Local P) (h : Placed P (p.template d)) (hc : p.complement = .notTrue p) :
    Placed P (p.complement.template d) :=
  hc ▸ .enclosed hP _ _ h

theorem listed_suffix (ts : List Token) (us : List String) :
    plain (said " IN (") ++ listed us <:+ plain (ts ++ said " IN (") ++ listed us := by
  rw [plain_append, List.append_assoc]
  exact List.suffix_append _ _

section

variable {d : Dialect}

/-- Where values are compared, a PostgreSQL column has one in each cell. -/
theorem placed_number {x : Binary64} (hkind : column.kind = .number) (hx : x.isFinite = true)
    (hsingle : d = .postgres → column.cardinality = .single) (c : Comparison) :
    Placed (Suits d table column op)
      ((Predicate.compare c (compared table column) (.float x)).template d) := by
  have hmany : ¬ (d = .postgres ∧ column.cardinality = .multi) := by
    rintro ⟨hd, hn⟩
    cases (hsingle hd).symm.trans hn
  refine Predicate.placed_compare ⟨hx, hkind, c, ?_⟩
  rw [if_neg hmany]
  exact List.suffix_refl _

theorem placed_instant (hkind : column.kind = .datetime)
    (hsingle : d = .postgres → column.cardinality = .single) (c : Comparison) (t : Instant) :
    Placed (Suits d table column op)
      ((Predicate.compare c (compared table column) (.timestamp t)).template d) :=
  Predicate.placed_compare ⟨hkind, hsingle, .inl ⟨c, List.suffix_refl _⟩⟩

theorem placed_during (hkind : column.kind = .datetime)
    (hsingle : d = .postgres → column.cardinality = .single) (start stop : Instant) :
    Placed (Suits d table column op) ((Predicate.between (compared table column)
      (.timestamp start) (.timestamp stop)).template d) :=
  Predicate.placed_between ⟨hkind, hsingle, .inr (.inl (List.suffix_refl _))⟩
    ⟨hkind, hsingle, .inr (.inr ⟨start, List.suffix_refl _⟩)⟩

theorem placed_equals (hkind : IsTextual column.kind) (s : String) :
    Placed (Suits d table column op) ((Predicate.compare .eq
      (d.identity column.kind (compared table column)) (.text s)).template d) :=
  Predicate.placed_compare (.inl ⟨hkind, List.suffix_refl _⟩)

theorem placed_contains (hkind : IsTextual column.kind) (s : String) :
    Placed (Suits d table column op) ((Predicate.like
      (d.searched column.kind (compared table column)) (Text.Like.containsPattern s)).template d) :=
  Predicate.placed_like (.inr (.inl ⟨hkind, ⟨_, Text.Like.parts?_containsPattern s⟩,
    List.prefix_refl _, List.suffix_refl _⟩))

end

theorem Postgres.placed_cellTest (hn : column.cardinality = .single) {test : ValueTest}
    (h : test.FitsKind column.kind) : Placed (Suits .postgres table column op)
      ((cellTest column.kind (compared table column) test).template .postgres) := by
  cases test with
  | isTrue => exact .sql _
  | number c x => exact placed_number h.1 h.2 (fun _ => hn) c
  | during start stop => exact placed_during h (fun _ => hn) start stop
  | before start => exact placed_instant h (fun _ => hn) .lt start
  | onOrAfter start => exact placed_instant h (fun _ => hn) .ge start
  | after stop => exact placed_instant h (fun _ => hn) .gt stop
  | onOrBefore stop => exact placed_instant h (fun _ => hn) .le stop
  | equals s => exact placed_equals h s
  | contains s => exact placed_contains h s
  | oneOf ss =>
    exact Predicate.placed_equalsAny ⟨rfl, h, .inl ⟨ends_plain _ _, List.prefix_refl _⟩⟩

theorem Postgres.placed_listTest (hn : column.cardinality = .multi) {test : ValueTest}
    (h : test.FitsKind column.kind) :
    let p := listTest column.kind (.column table column.dbName) test
    Placed (Suits .postgres table column op) (p.template .postgres)
      ∧ Placed (Suits .postgres table column op) (p.complement.template .postgres) := by
  have hlocal := local_suits .postgres table column op
  have hplain {p : Predicate} (hp : Placed (Suits .postgres table column op) (p.template .postgres))
      (hc : p.complement = .notTrue p) :
      Placed (Suits .postgres table column op) (p.template .postgres)
        ∧ Placed (Suits .postgres table column op) (p.complement.template .postgres) :=
    ⟨hp, hp.complement hlocal hc⟩
  have hinstants (tests : List PathTest) (hkind : column.kind = .datetime)
      (ht : ∀ t ∈ tests, ∃ s, t.value = .text s) : Placed (Suits .postgres table column op)
        ((Predicate.pathExists (.column table column.dbName) tests).template .postgres) := by
    refine Predicate.placed_pathExists hlocal fun t hmem => ?_
    obtain ⟨s, hs⟩ := ht t hmem
    rw [hs]
    exact .inr (.inr (.inl ⟨rfl, hn, List.prefix_refl _, .inr ⟨hkind, t.name, List.suffix_refl _⟩⟩))
  cases test with
  | isTrue => exact hplain (.sql _) rfl
  | number c x =>
    refine hplain (Predicate.placed_numberSearch hlocal ⟨h.2, h.1, c, ?_⟩) rfl
    rw [if_pos ⟨rfl, hn⟩]
    exact ⟨List.suffix_refl _, List.prefix_refl _⟩
  | during start stop | before start | onOrAfter start | after stop | onOrBefore stop =>
    exact hplain (hinstants _ h (by simp [instantTest])) rfl
  | equals s =>
    have hopening : said " @> jsonb_build_array(" = said " @> " ++ said "jsonb_build_array(" := by
      decide
    have hcast : said "::text)" = said "::text" ++ said ")" := by decide
    refine hplain (Predicate.placed_hasMember (.inr (.inr (.inl ⟨rfl, hn, ?_, .inl ⟨h, ?_⟩⟩)))) rfl
    · rw [hcast]
      exact begins_plain _ _
    · rw [hopening, ← List.append_assoc]
      exact ends_plain _ _
  | contains s =>
    have hlike : Placed (Suits .postgres table column op) ((Predicate.like
        (searched column.kind .element) (Text.Like.containsPattern s)).template .postgres) :=
      compared_multi table hn ▸ placed_contains h s
    exact ⟨.enclosed hlocal _ _ hlike, .enclosed hlocal _ _ hlike⟩
  | oneOf ss =>
    exact hplain (Predicate.placed_hasAnyMember ⟨rfl, h, .inr (.inl (ends_plain _ _))⟩) rfl

theorem Postgres.placed_predicate {n : Cardinality} (hn : column.cardinality = n) {q : Criterion n}
    (h : q.FitsKind column.kind op) : Placed (Suits .postgres table column op)
      ((predicate column.kind (.column table column.dbName) q).template .postgres) := by
  have hlocal := local_suits .postgres table column op
  cases q with
  | passes test =>
    cases n with
    | single => exact compared_single table hn ▸ placed_cellTest hn h
    | multi => exact (placed_listTest hn h).1
  | fails test =>
    cases n with
    | single =>
      exact (compared_single table hn ▸ placed_cellTest hn h).complement hlocal
        (by cases test <;> rfl)
    | multi => exact (placed_listTest hn h).2
  | isEmpty =>
    cases n with
    | single => cases hk : column.kind <;> exact .sql _
    | multi => exact .sql _
  | isNotEmpty =>
    cases n with
    | single => cases hk : column.kind <;> exact .sql _
    | multi => exact .sql _
  | hasAll ss => exact Predicate.placed_hasAllMembers ⟨rfl, h.1, .inr (.inr (ends_plain _ _))⟩
  | hasExactly ss =>
    refine Predicate.placed_sameMembers hlocal fun ts hts => ⟨rfl, h.2, List.prefix_refl _, ?_⟩
    obtain rfl | rfl : ts = said " @> " ∨ ts = said " <@ " := by simpa using hts
    · exact .inl (List.suffix_refl _)
    · exact .inr (List.suffix_refl _)

theorem Sqlite.placed_valueTest {test : ValueTest} (h : test.FitsKind column.kind) :
    Placed (Suits .sqlite table column op)
      ((valueTest column.kind (compared table column) test).template .sqlite) := by
  have hsingle : Dialect.sqlite = .postgres → column.cardinality = .single := nofun
  cases test with
  | isTrue => exact .sql _
  | number c x => exact placed_number h.1 h.2 hsingle c
  | during start stop => exact placed_during h hsingle start stop
  | before start => exact placed_instant h hsingle .lt start
  | onOrAfter start => exact placed_instant h hsingle .ge start
  | after stop => exact placed_instant h hsingle .gt stop
  | onOrBefore stop => exact placed_instant h hsingle .le stop
  | equals s => exact placed_equals h s
  | contains s => exact placed_contains h s
  | oneOf ss =>
    exact Predicate.placed_inList fun ts us s after =>
      .inr (.inr (.inr ⟨rfl, h, us, listed_suffix ts us⟩))

theorem Sqlite.placed_listTest (hn : column.cardinality = .multi) {test : ValueTest}
    (h : test.FitsKind column.kind) :
    let p := listTest column.kind (.column table column.dbName) test
    Placed (Suits .sqlite table column op) (p.template .sqlite)
      ∧ Placed (Suits .sqlite table column op) (p.complement.template .sqlite) := by
  have hlocal := local_suits .sqlite table column op
  have helement (test : ValueTest) (h : test.FitsKind column.kind) :
      Placed (Suits .sqlite table column op)
        ((valueTest column.kind .element test).template .sqlite) :=
    compared_multi table hn ▸ placed_valueTest h
  cases test with
  | isTrue =>
    have hp : Placed (Suits .sqlite table column op) (Predicate.elementIsTrue.template .sqlite) :=
      .sql _
    exact ⟨.enclosed hlocal _ _ hp, .enclosed hlocal _ _ hp⟩
  | _ =>
    exact ⟨.enclosed hlocal _ _ (helement _ h), .enclosed hlocal _ _ (helement _ h)⟩

theorem Sqlite.placed_countsAll (hkind : IsTextual column.kind) (hop : op = .allOf ∨ op = .exactly)
    (member array : Term) (ss : List String) : Placed (Suits .sqlite table column op)
      ((Predicate.countsAll member array ss).template .sqlite) :=
  Predicate.placed_countsAll
    (fun ts us _ _ => .inr (.inr (.inr ⟨rfl, hkind, us, listed_suffix ts us⟩)))
    ⟨rfl, hop, member, array, ss, rfl, List.suffix_refl _⟩

theorem Sqlite.placed_predicate {n : Cardinality} (hn : column.cardinality = n) {q : Criterion n}
    (h : q.FitsKind column.kind op) : Placed (Suits .sqlite table column op)
      ((predicate column.kind (.column table column.dbName) q).template .sqlite) := by
  have hlocal := local_suits .sqlite table column op
  cases q with
  | passes test =>
    cases n with
    | single => exact compared_single table hn ▸ placed_valueTest h
    | multi => exact (placed_listTest hn h).1
  | fails test =>
    cases n with
    | single =>
      exact (compared_single table hn ▸ placed_valueTest h).complement hlocal
        (by cases test <;> rfl)
    | multi => exact (placed_listTest hn h).2
  | isEmpty =>
    cases n with
    | single => cases hk : column.kind <;> exact .sql _
    | multi => exact .sql _
  | isNotEmpty =>
    cases n with
    | single => cases hk : column.kind <;> exact .sql _
    | multi => exact .sql _
  | hasAll ss => exact placed_countsAll h.1 (.inl h.2) _ _ _
  | hasExactly ss =>
    have hcounts : Placed (Suits .sqlite table column op) ((Predicate.countsAll
        (identity column.kind .element) (.column table column.dbName)
          (Json.distinct ss)).template .sqlite) := placed_countsAll h.1 (.inr h.2) _ _ _
    have houtside : Placed (Suits .sqlite table column op) ((Predicate.outsideList
        (identity column.kind .element) (Json.distinct ss)).template .sqlite) :=
      Predicate.placed_outsideList fun ts us s after =>
        .inr (.inr (.inr ⟨rfl, h.1, us, listed_suffix ts us⟩))
    have hnone : Placed (Suits .sqlite table column op) ((Predicate.noElement .each
        (.column table column.dbName) (.outsideList (identity column.kind .element)
          (Json.distinct ss))).template .sqlite) := .enclosed hlocal _ _ houtside
    exact .enclosed hlocal "(" ")" (.append hlocal hcounts (.append hlocal (.sql " AND ") hnone))

end Sql

/-- Each value of a requirement stands where a value of its type may. -/
theorem Requirement.placed {r : Requirement} {op : Operator}
    (h : r.criterion.FitsKind r.column.kind op) (d : Dialect) (table : Option String) :
    Placed (Suits d table r.column op) ((r.predicate d table).template d) := by
  cases d with
  | postgres => exact Postgres.placed_predicate rfl h
  | sqlite => exact Sqlite.placed_predicate rfl h

/-! ## The values of a filter -/

/-- Plans whose predicates have their values in such places have so themselves. -/
theorem Plan.placed {P : List Item → Value → List Item → Prop} (hP : Local P) {d : Dialect}
    (t : Plan) (h : ∀ p ∈ t.leaves, Placed P (p.template d)) : Placed P (template d t) := by
  refine template_induction (fun c ts hts => ?_) t h
  have hjoin : Placed P (Template.join c.sql ts) :=
    Template.join_induction ⟨[], rfl, eachValue_plain []⟩
      (fun t u ht hu => .append hP ht (.append hP (.sql c.sql) hu)) hts
  exact .enclosed hP "(" ")" hjoin

/-- What a value of a filter stands in: the SQL of one of its conditions, where a value of its type
may stand. -/
def SuitsFilter (c : Compiler) (schema : Schema) (f : Filter) (before : List Item) (v : Value)
    (after : List Item) : Prop :=
  ∃ q ∈ f.leaves, ∃ column op, schema q.columnId = some column ∧ q.operator? column.kind = some op
    ∧ Suits c.dialect c.table column op before v after

theorem Compiler.placed_planOf {c : Compiler} {schema : Schema} {ctx : Context} {f : Filter}
    {rs : Tree Requirement} (h : c.requirements schema ctx f = .ok (some rs)) :
    Placed (SuitsFilter c schema f) ((c.planOf rs).template c.dialect) := by
  have hlocal : Local (SuitsFilter c schema f) := by
    rintro before v after ⟨q, hq, column, op, hs, hop, h⟩ is js
    exact ⟨q, hq, column, op, hs, hop, local_suits _ _ _ _ before v after h is js⟩
  refine Plan.placed hlocal _ fun p hp => ?_
  obtain ⟨g, hg, htr⟩ := c.requirements_ok schema h
  obtain ⟨r, hr, rfl⟩ := List.mem_map.mp ((Tree.leaves_map _ rs) ▸ hp)
  obtain ⟨q', hq', hread⟩ := exists_mem_of_forall₂ (Compiler.leaves_of_traverse htr).2 hr
  obtain ⟨q, hq, hprepare⟩ := Filter.mem_leaves_of_prepare hg hq'
  obtain ⟨hid, hoperator, hsymbol⟩ := Condition.prepare_ok hprepare
  obtain ⟨op, clock, hs, hop, hcriterion⟩ := c.requirement_ok schema hread
  have hop' : q.operator? r.column.kind = some op := by
    rw [← (mem_legalOperators_of_resolve hop).1, Condition.operator?, Condition.operator?, hoperator,
      hsymbol]
  obtain ⟨is, his, hplaced⟩ := Requirement.placed (Criterion.fitsKind_of_read? hcriterion) c.dialect
    c.table
  exact ⟨is, his, hplaced.mono fun before v after h => ⟨q, hq, r.column, op, hid ▸ hs, hop', h⟩⟩

/-- The values of a compiled filter are of the types their places ask for. Its placeholders read as
parameters, whatever `k` are bound before, every parameter stands in the text of some condition
where a value of its type may, and what stands after LIKE is a pattern with runs at its ends. -/
theorem values_suit (c : Compiler) (schema : Schema) (ctx : Context) (k : Nat) (f : Filter)
    {out : CompiledPredicate} (h : c.predicate schema ctx k f = .ok (some out)) :
    ∃ ts is, tokens? out.sql = some ts
      ∧ (c.dialect = .sqlite → bindMarks ts out.params.values = some is)
      ∧ (c.dialect = .postgres → ∀ ps vs, ps.length = k →
        bindNumbers? (ps ++ (out.params.values ++ vs)) ts = some is)
      ∧ (∀ v ∈ out.params.values, .value v ∈ is)
      ∧ ∀ before v after, is = before ++ .value v :: after →
        SuitsFilter c schema f before v after
          ∧ (Ends before (said c.dialect.likeKeyword) → ∃ s, v = .text s ∧ IsPattern s) := by
  obtain ⟨rs, hrs, rfl⟩ := c.predicate_ok schema h
  obtain ⟨is, his, hplaced⟩ := Compiler.placed_planOf hrs
  have hts := Plan.legible_template c.dialect (c.planOf rs) k
  refine ⟨_, is, hts, ?_, ?_, fun v hv => Template.mem_of_filled? his hv, fun before v after hv => ?_⟩
  · intro hd
    obtain ⟨ts, js, hts', hjs, hbind⟩ := Compiler.bindMarks_written hd rs k
    rw [hd, hjs] at his
    obtain rfl := Option.some_inj.mp (hts.symm.trans hts')
    rw [hbind, his]
  · rintro hd ps vs rfl
    obtain ⟨ts, js, hts', hjs, hbind⟩ := Compiler.bindNumbers?_written hd rs ps vs
    rw [hd, hjs] at his
    obtain rfl := Option.some_inj.mp (hts.symm.trans hts')
    rw [hbind, his]
  · have hsuits := hplaced before v after hv
    have hpattern := hsuits
    obtain ⟨_, _, _, _, _, _, hplace⟩ := hpattern
    exact ⟨hsuits, hplace.pattern⟩

/-- A title beside a list of labels. -/
def articles : Schema :=
  Schema.ofList [{ id := "title", dbName := "title", semanticType := .text },
    { id := "labels", dbName := "labels", semanticType := .text, isMultiValued := true }]

/-- A wildcard in a title, and a label that is asked for twice. -/
def halfPriceSale : Filter :=
  .group .and
    [.leaf { columnId := "title", operator := "contains", value := .str "50%" },
      .leaf { columnId := "labels", operator := "allOf",
              value := .arr [.str "sale", .str "new", .str "sale"] }]

theorem values_suit_halfPriceSale :
    ∃ out ts is,
      (Compiler.mk .sqlite .bundled .utc "me" none).predicate articles
        ⟨none, ⟨0, 0⟩⟩ 0 halfPriceSale = .ok (some out)
      ∧ tokens? out.sql = some ts ∧ bindMarks ts out.params.values = some is
      ∧ .value (.int 2) ∈ is
      ∧ (∀ before after n, is = before ++ .value (.int n) :: after →
        SuitsFilter (.mk .sqlite .bundled .utc "me" none) articles halfPriceSale
          before (.int n) after)
      ∧ ∀ before v after, is = before ++ .value v :: after → Ends before (said " LIKE ") →
        ∃ s, v = .text s ∧ IsPattern s := by
  obtain ⟨ts, is, hts, hbind, -, hmem, hsuits⟩ :=
    values_suit (.mk .sqlite .bundled .utc "me" none) articles
      ⟨none, ⟨0, 0⟩⟩ 0 halfPriceSale rfl
  exact ⟨_, ts, is, rfl, hts, hbind rfl, hmem _ (List.mem_of_getLast? rfl),
    fun before after n h => (hsuits before _ after h).1,
    fun before v after h hlike => (hsuits before v after h).2 hlike⟩

end RowFilter
