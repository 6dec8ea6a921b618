import RowFilter.Compiler
/-!
# Reading column references

A reader of quoted identifiers as SQL defines them: a name stands between double quotes, and a
double quote in it is written twice. Names joined by dots make a reference. Unlike the reader of
tokens, which takes a whole text, this one takes a reference from the front of a text and leaves
what follows it, which may be anything that does not go on with the reference.

Whatever characters the names hold, quotes and dots included, a column reference is read as the
names that it was written with. So no two columns have the same reference, and no name reaches
out of its quotes.

Results:
* `readName?_eq_some_iff`: what is read as a name is that name as it is quoted.
* `readNames?_eq_some_iff`: the same for several names joined by dots.
* `columnText_inj`: two references are the same only if their tables and columns are.
* `Target.readReference?_term`: the reference of a column is read as its table and its name.
-/
namespace RowFilter

namespace Sql

/-! ## Names -/

/-- Reads a name after the quote that opens it. A quote closes the name unless another follows,
which makes both one quote of the name. -/
def readName? : List Char → Option (List Char × List Char)
  | [] => none
  | c :: cs =>
    if c = '"' then
      match cs with
      | [] => some ([], [])
      | d :: ds =>
        if d = '"' then (readName? ds).map fun (name, rest) => ('"' :: name, rest)
        else some ([], d :: ds)
    else (readName? cs).map fun (name, rest) => (c :: name, rest)

/-- A character other than a quote is one of the name. -/
theorem readName?_cons_of_ne {c : Char} (h : c ≠ '"') (cs : List Char) :
    readName? (c :: cs) = (readName? cs).map fun (name, rest) => (c :: name, rest) := by
  rw [readName?.eq_def]
  exact if_neg h

/-- The name ends at the quote that closes it, whatever follows but another quote. -/
theorem readName?_quotedChars (name : List Char) {rest : List Char} (h : rest.head? ≠ some '"') :
    readName? (Dialect.quotedChars name ++ rest) = some (name, rest) := by
  induction name with
  | nil =>
    cases rest with
    | nil => rfl
    | cons d ds => simpa [Dialect.quotedChars, readName?] using h
  | cons c name ih =>
    unfold Dialect.quotedChars
    split
    · next hc => simp [readName?, ih, hc]
    · next hc => simp [readName?_cons_of_ne hc, ih]

/-- What is read as a name is that name as it is quoted. -/
theorem quotedChars_of_readName? {cs name rest : List Char} (h : readName? cs = some (name, rest)) :
    cs = Dialect.quotedChars name ++ rest ∧ rest.head? ≠ some '"' := by
  induction cs using readName?.induct generalizing name with
  | case1 => simp [readName?] at h
  | case2 =>
    simp only [readName?, if_true, Option.some.injEq, Prod.mk.injEq] at h
    obtain ⟨rfl, rfl⟩ := h
    simp [Dialect.quotedChars]
  | case3 ds ih =>
    simp only [readName?, if_true, Option.map_eq_some_iff, Prod.exists, Prod.mk.injEq] at h
    obtain ⟨name', _, hread, rfl, rfl⟩ := h
    obtain ⟨rfl, hrest⟩ := ih hread
    simp [Dialect.quotedChars, hrest]
  | case4 d ds hd =>
    simp only [readName?, hd, if_true, if_false, Option.some.injEq, Prod.mk.injEq] at h
    obtain ⟨rfl, rfl⟩ := h
    simp [Dialect.quotedChars, hd]
  | case5 c cs hc ih =>
    simp only [readName?_cons_of_ne hc, Option.map_eq_some_iff, Prod.exists, Prod.mk.injEq] at h
    obtain ⟨name', _, hread, rfl, rfl⟩ := h
    obtain ⟨rfl, hrest⟩ := ih hread
    simp [Dialect.quotedChars, hc, hrest]

theorem readName?_eq_some_iff {cs name rest : List Char} :
    readName? cs = some (name, rest)
      ↔ cs = Dialect.quotedChars name ++ rest ∧ rest.head? ≠ some '"' := by
  refine ⟨quotedChars_of_readName?, ?_⟩
  intro h
  rw [h.1, readName?_quotedChars name h.2]

/-! ## References -/

/-- A reading of a name leaves less than there was. -/
theorem length_of_readName? {cs name rest : List Char} (h : readName? cs = some (name, rest)) :
    rest.length < cs.length := by
  obtain ⟨rfl, -⟩ := quotedChars_of_readName? h
  cases name <;> simp [Dialect.quotedChars]
  split <;> simp

/-- Reads names in quotes, joined by dots. After a dot there must be a name. -/
def readNames? : List Char → Option (List (List Char) × List Char)
  | '"' :: cs =>
    match _h : readName? cs with
    | none => none
    | some (name, '.' :: rest) => (readNames? rest).map fun (names, rest) => (name :: names, rest)
    | some (name, rest) => some ([name], rest)
  | _ => none
termination_by cs => cs.length
decreasing_by
  have := length_of_readName? _h
  simp only [List.length_cons] at *
  omega

/-- What is read after the quote that opens a reference. -/
theorem readNames?_quote (cs : List Char) :
    readNames? ('"' :: cs) =
      match readName? cs with
      | none => none
      | some (name, '.' :: rest) =>
        (readNames? rest).map fun (names, rest) => (name :: names, rest)
      | some (name, rest) => some ([name], rest) := by
  rw [readNames?]
  split <;> simp_all

/-- Names in quotes, joined by dots. -/
def referenceChars : List (List Char) → List Char
  | [] => []
  | [name] => '"' :: Dialect.quotedChars name
  | name :: other :: names =>
    '"' :: (Dialect.quotedChars name ++ '.' :: referenceChars (other :: names))

/-- What does not go on with a reference that it follows. -/
def EndsReference (rest : List Char) : Prop := rest.head? ≠ some '"' ∧ rest.head? ≠ some '.'

/-- References are read whole: the reader goes on at a dot and nowhere else. -/
theorem readNames?_referenceChars {names : List (List Char)} (hne : names ≠ []) {rest : List Char}
    (h : EndsReference rest) : readNames? (referenceChars names ++ rest) = some (names, rest) := by
  induction names using referenceChars.induct with
  | case1 => exact absurd rfl hne
  | case2 name =>
    rw [referenceChars, List.cons_append, readNames?_quote, readName?_quotedChars name h.1]
    cases rest with
    | nil => rfl
    | cons c rest =>
      have hc : c ≠ '.' := fun heq => h.2 (by simp [heq])
      simp [hc]
  | case3 name other names ih =>
    have hdot : ('.' :: (referenceChars (other :: names) ++ rest)).head? ≠ some '"' := by simp
    rw [referenceChars, List.cons_append, List.append_assoc, List.cons_append, readNames?_quote,
      readName?_quotedChars name hdot]
    simp [ih]

/-- What is read as names is a reference, and nothing after it goes on with it. -/
theorem referenceChars_of_readNames? {cs : List Char} {names : List (List Char)} {rest : List Char}
    (h : readNames? cs = some (names, rest)) :
    names ≠ [] ∧ cs = referenceChars names ++ rest ∧ EndsReference rest := by
  induction cs using readNames?.induct generalizing names with
  | case1 cs hname => simp [readNames?_quote, hname] at h
  | case2 cs name rest' hname ih =>
    simp only [readNames?_quote, hname, Option.map_eq_some_iff, Prod.exists, Prod.mk.injEq] at h
    obtain ⟨others, _, hread, rfl, rfl⟩ := h
    obtain ⟨hne, rfl, hrest⟩ := ih hread
    obtain ⟨other, others, rfl⟩ := List.exists_cons_of_ne_nil hne
    obtain ⟨rfl, -⟩ := quotedChars_of_readName? hname
    simp [referenceChars, hrest]
  | case3 cs name rest' hdot hname =>
    simp only [readNames?_quote, hname, Option.some.injEq, Prod.mk.injEq] at h
    obtain ⟨rfl, rfl⟩ := h
    obtain ⟨rfl, hquote⟩ := quotedChars_of_readName? hname
    refine ⟨by simp, by simp [referenceChars], hquote, ?_⟩
    intro hhead
    cases rest' with
    | nil => simp at hhead
    | cons c rest' => exact hdot rest' (by simpa using hhead)
  | case4 cs hcs => simp [readNames?] at h

theorem readNames?_eq_some_iff {cs : List Char} {names : List (List Char)} {rest : List Char} :
    readNames? cs = some (names, rest)
      ↔ names ≠ [] ∧ cs = referenceChars names ++ rest ∧ EndsReference rest := by
  refine ⟨referenceChars_of_readNames?, ?_⟩
  intro h
  rw [h.2.1, readNames?_referenceChars h.1 h.2.2]

/-! ## References as texts -/

/-- Reads a reference from the front of a text: its names and what follows. -/
def readReference? (s : String) : Option (List String × String) :=
  (readNames? s.toList).map fun (names, rest) => (names.map String.ofList, String.ofList rest)

/-- The names of a column reference, each in quotes and joined by dots. -/
theorem toList_columnText (table : Option String) (name : String) :
    (columnText table name).toList
      = referenceChars ((table.toList ++ [name]).map String.toList) := by
  cases table <;> simp [columnText, Dialect.quoteIdentifier, referenceChars]

/-- A reference is read as its table, if it has one, and its column. -/
theorem readReference?_columnText (table : Option String) (name : String) {rest : String}
    (h : EndsReference rest.toList) :
    readReference? (columnText table name ++ rest) = some (table.toList ++ [name], rest) := by
  have hread : readNames? (columnText table name ++ rest).toList
      = some ((table.toList ++ [name]).map String.toList, rest.toList) := by
    rw [String.toList_append, toList_columnText]
    exact readNames?_referenceChars (by simp) h
  rw [readReference?, hread]
  simp [Function.comp_def]

/-- Two references are the same only if their tables and columns are. -/
theorem columnText_inj {table table' : Option String} {name name' : String} :
    columnText table name = columnText table' name' ↔ table = table' ∧ name = name' := by
  constructor
  · intro h
    have hend : EndsReference "".toList := by simp [EndsReference]
    have hread := readReference?_columnText table name hend
    rw [h, readReference?_columnText table' name' hend] at hread
    simp only [Option.some.injEq, Prod.mk.injEq, and_true] at hread
    obtain ⟨htable, hname⟩ := List.append_inj' hread rfl
    cases table <;> cases table' <;> simp_all
  · rintro ⟨rfl, rfl⟩
    rfl

end Sql

/-! ## The references of columns -/

open Sql

/-- Whatever characters the names hold, and whatever follows that does not go on with it, the
reference of a column is read as its table and its name. So it is the reference of no other. -/
theorem Target.readReference?_term (t : Target) :
    (∀ rest : String, EndsReference rest.toList →
      readReference? (t.term.text t.dialect ++ rest)
        = some (t.table.toList ++ [t.column.dbName], rest))
    ∧ ∀ u : Target, u.term.text u.dialect = t.term.text t.dialect
        ↔ u.table = t.table ∧ u.column.dbName = t.column.dbName := by
  constructor
  · intro rest h
    exact readReference?_columnText t.table t.column.dbName h
  · intro u
    exact columnText_inj

/-- A table without a name and a column of which the name is a dot between quotes. -/
theorem Target.readReference?_term_quotes :
    let column : Column := ⟨"c", "\".\"", .number, .plain, false, {}⟩
    let t : Target := ⟨.sqlite, column, some "", ⟨.utc, ⟨0, 0⟩⟩⟩
    t.term.text t.dialect = "\"\".\"\"\".\"\"\""
      ∧ readReference? (t.term.text t.dialect ++ " = ?") = some (["", "\".\""], " = ?") := by
  intro column t
  refine ⟨by decide, ?_⟩
  exact t.readReference?_term.1 " = ?" (by simp [EndsReference])

end RowFilter
