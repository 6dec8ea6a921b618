import RowFilter.Compiler
import RowFilter.Proofs.Legible
/-!
# The wording of predicates

`Predicate.words` lists the tokens of a predicate without its placeholders, as the predicate
means them. Its text is read as these and nothing else.

Results:
* `reads_template`: the template of a predicate is read piece by piece, as its words.
* `legible_template`: so is the template of a plan.
-/
namespace RowFilter.Sql

/-! ## Listings -/

namespace Listing

/-- What stands before the array in a listing. -/
def opening : Listing → String
  | each => "json_each("
  | elements => "jsonb_array_elements("
  | elementTexts => "jsonb_array_elements_text("

def closing : Listing → String
  | each => ")"
  | elements | elementTexts => ") AS elem(value)"

/-- The tokens of an array as a search lists it. -/
def tokens (l : Listing) (array : List Token) : List Token :=
  said l.opening ++ (array ++ said l.closing)

theorem text_eq (l : Listing) (array : String) :
    l.text array = l.opening ++ (array ++ l.closing) := by
  cases l <;> exact String.append_assoc

theorem closes_opening (l : Listing) : closes l.opening = true := by cases l <;> decide

theorem closes_closing (l : Listing) : closes l.closing = true := by cases l <;> decide

theorem follows_closing (l : Listing) : Follows l.closing := by cases l <;> decide

end Listing

theorem tokens?_listing (d : Dialect) (l : Listing) (t : Term) :
    tokens? (l.text (t.text d)) = some (l.tokens (t.tokens d)) := by
  rw [Listing.text_eq, Listing.tokens]
  exact tokens?_enclosed l.closes_opening (tokens?_term d t) l.follows_closing

theorem closes_listing (d : Dialect) (l : Listing) (t : Term) :
    closes (l.text (t.text d)) = true := by
  have ht : closes (t.text d ++ l.closing) = true :=
    closes_append (tokens?_term d t) l.closes_closing (.inr l.follows_closing.2)
  rw [Listing.text_eq]
  exact closes_append (tokens?_said (isSome_of_closes l.closes_opening)) ht (.inl l.closes_opening)

/-! ## Predicates -/

namespace Predicate

/-- What stands in a path search between its single quotes. -/
def path (tests : List PathTest) : String :=
  "$[*] ? (" ++ (String.intercalate " && " (tests.map PathTest.pathText) ++ ")")

def arrayLengthText : Dialect → String
  | .postgres => "jsonb_array_length("
  | .sqlite => "json_array_length("

def isTrueText : Dialect → String
  | .postgres => " = TRUE"
  | .sqlite => " = 1"

/-- The tokens of a predicate without its placeholders. -/
def words (d : Dialect) : Predicate → List Token
  | isTrue t => t.tokens d ++ said (isTrueText d)
  | compare c t _ => t.tokens d ++ said (" " ++ (c.sql ++ " "))
  | between t _ _ => t.tokens d ++ said " BETWEEN " ++ said " AND "
  | like t _ => t.tokens d ++ said d.likeKeyword ++ said Dialect.likeEscape
  | inList t vs => t.tokens d ++ said " IN (" ++ (commas vs.length ++ said ")")
  | outsideList t vs =>
    t.tokens d ++ (said " IS NULL OR " ++ (t.tokens d ++ said " NOT IN ("))
      ++ (commas vs.length ++ said ")")
  | equalsAny t _ => t.tokens d ++ said " = ANY(" ++ said ")"
  | isNull t => t.tokens d ++ said " IS NULL"
  | isNotNull t => t.tokens d ++ said " IS NOT NULL"
  | isBlank t => said "(" ++ (t.tokens d ++ (said " IS NULL OR " ++ (t.tokens d ++ said " = '')")))
  | isNotBlank t => t.tokens d ++ said " <> ''"
  | hasNoElements t =>
    said "(" ++ (t.tokens d ++ (said " IS NULL OR " ++ (said (arrayLengthText d)
      ++ (t.tokens d ++ said ") = 0)"))))
  | hasElements t => said (arrayLengthText d) ++ (t.tokens d ++ said ") > 0")
  | elementIsTrue => said "json_each.type = 'true'"
  | notTrue p => said d.notTrueOpening ++ (p.words d ++ said d.notTrueClosing)
  | someElement l array p =>
    said "EXISTS (SELECT 1 FROM " ++ (l.tokens (array.tokens d) ++ said " WHERE ")
      ++ (p.words d ++ said ")")
  | noElement l array p =>
    said "NOT EXISTS (SELECT 1 FROM " ++ (l.tokens (array.tokens d) ++ said " WHERE ")
      ++ (p.words d ++ said ")")
  | pathIsTrue t =>
    said "jsonb_path_exists(" ++ (t.tokens d ++ said ", '$[*] ? (@ == true)')")
  | pathExists t tests =>
    said "jsonb_path_exists(" ++ (t.tokens d ++ (said ", " ++ ([.literal (path tests)]
      ++ said ", jsonb_build_object("))) ++ ((Template.join ", " (tests.map PathTest.argument)).words
        ++ said "))")
  | hasMember t _ => t.tokens d ++ said " @> jsonb_build_array(" ++ said "::text)"
  | hasAnyMember t _ => t.tokens d ++ said " ?| "
  | hasAllMembers t _ => t.tokens d ++ said " ?& "
  | sameMembers t _ =>
    said "(" ++ (t.tokens d ++ said " @> ")
      ++ (said "::jsonb AND " ++ (t.tokens d ++ said " <@ ") ++ said "::jsonb)")
  | countsAll member array vs =>
    said "(SELECT COUNT(DISTINCT " ++ (member.tokens d ++ (said ") FROM "
      ++ (Listing.each.tokens (array.tokens d) ++ (said " WHERE " ++ (member.tokens d ++ said " IN (")))))
        ++ (commas vs.length ++ said ")) = ")
  | both p q => said "(" ++ (p.words d ++ (said " AND " ++ q.words d) ++ said ")")

/-! ## Their templates -/

variable (d : Dialect)

theorem reads_texts_append (vs : List String) {t : Template} {us : List Token}
    (ht : t.Reads d us) (h : t.opens = true) :
    (Template.list (vs.map .text) ++ t).Reads d (commas vs.length ++ us) := by
  have hl := Template.words_list (vs.map .text)
  rw [List.length_map] at hl
  exact .append ⟨Template.legible_list d _, hl⟩ ht h

/-- Values between two texts. -/
theorem reads_sql_texts_said {a b : String} {us : List Token} (ha : tokens? a = some us)
    (vs : List String) (hb : Follows b) :
    Template.Reads d (.sql a :: (Template.list (vs.map .text) ++ [.sql b]))
      (us ++ (commas vs.length ++ said b)) := by
  have ho := Template.opens_sql_cons [] hb
  exact .sql_cons ha (reads_texts_append d vs (.said hb.1) ho) (Template.opens_list_append _ ho)

theorem arrayLength_eq (expr : String) :
    d.arrayLength expr = arrayLengthText d ++ (expr ++ ")") := by
  cases d <;> exact String.append_assoc

theorem closes_arrayLengthText : closes (arrayLengthText d) = true := by
  cases d <;> decide

theorem tokens?_arrayLength (t : Term) {s : String} (hs : Follows (")" ++ s)) :
    tokens? (d.arrayLength (t.text d) ++ s)
      = some (said (arrayLengthText d) ++ (t.tokens d ++ said (")" ++ s))) := by
  rw [arrayLength_eq, String.append_assoc, String.append_assoc]
  exact tokens?_enclosed (closes_arrayLengthText d) (tokens?_term d t) hs

/-- What stands before the inner predicate of a search. -/
theorem search_head {a : String} (l : Listing) (array : Term) (ha : closes a = true) :
    tokens? (a ++ (l.text (array.text d) ++ " WHERE "))
        = some (said a ++ (l.tokens (array.tokens d) ++ said " WHERE "))
      ∧ closes (a ++ (l.text (array.text d) ++ " WHERE ")) = true := by
  have hl := tokens?_listing d l array
  refine ⟨tokens?_enclosed ha hl (by decide), ?_⟩
  exact closes_append (tokens?_said (isSome_of_closes ha))
    (closes_append hl (by decide) (.inl (closes_listing d l array))) (.inl ha)

theorem not_mem_pathText (t : PathTest) : '\'' ∉ t.pathText.toList := by
  have hc : ∀ c : Comparison, '\'' ∉ c.path.toList := by intro c; cases c <;> decide
  have hn : ∀ x : PathVariable, '\'' ∉ x.text.toList := by intro x; cases x <;> decide
  simp [PathTest.pathText, hc, hn]

theorem not_mem_path (tests : List PathTest) : '\'' ∉ (path tests).toList := by
  have h : '\'' ∉ (String.intercalate " && " (tests.map PathTest.pathText)).toList := by
    induction tests with
    | nil => simp
    | cons t ts ih =>
      cases ts with
      | nil => simpa using not_mem_pathText t
      | cons u us =>
        rw [List.map_cons, List.map_cons, String.intercalate_cons_cons, ← List.map_cons]
        simp only [String.toList_append, List.mem_append, not_or]
        exact ⟨⟨not_mem_pathText t, by decide⟩, ih⟩
  simp only [path, String.toList_append, List.mem_append, not_or]
  exact ⟨by decide, h, by decide⟩

theorem path_head_eq (t : Term) (tests : List PathTest) :
    "jsonb_path_exists(" ++ t.text d ++ ", '$[*] ? ("
        ++ String.intercalate " && " (tests.map PathTest.pathText) ++ ")', jsonb_build_object("
      = "jsonb_path_exists(" ++ (t.text d ++ (", " ++ (("'" ++ (path tests ++ "'"))
        ++ ", jsonb_build_object("))) := by
  have hopen : ", '$[*] ? (" = ", " ++ ("'" ++ "$[*] ? (") := by decide
  have hclose : ")', jsonb_build_object(" = ")" ++ ("'" ++ ", jsonb_build_object(") := by
    decide
  rw [hopen, hclose]
  simp only [path, String.append_assoc]

/-- What stands before the arguments of a path search. -/
theorem path_head (t : Term) (tests : List PathTest) :
    let s := "jsonb_path_exists(" ++ (t.text d ++ (", " ++ (("'" ++ (path tests ++ "'"))
      ++ ", jsonb_build_object(")))
    tokens? s = some (said "jsonb_path_exists(" ++ (t.tokens d
      ++ (said ", " ++ ([.literal (path tests)] ++ said ", jsonb_build_object(")))) ∧ closes s = true := by
  obtain ⟨hp, hpc⟩ := tokens?_literal (not_mem_path tests)
  have hb := tokens?_enclosed (a := ", ") (c := ", jsonb_build_object(") (by decide) hp (by decide)
  have hbc : closes (", " ++ (("'" ++ (path tests ++ "'")) ++ ", jsonb_build_object(")) = true :=
    closes_append (tokens?_said (by decide)) (closes_append hp (by decide) (.inl hpc))
      (.inl (by decide))
  have hbo := opens_append (a := ", ") (("'" ++ (path tests ++ "'")) ++ ", jsonb_build_object(")
    (by decide) (by decide)
  refine ⟨tokens?_said_append (by decide) (tokens?_term_append d t hb hbo), ?_⟩
  refine closes_append (tokens?_said (by decide)) (closes_append (tokens?_term d t) hbc
    (.inr ⟨hbo, ?_⟩)) (.inl (by decide))
  exact fun h => absurd (String.append_eq_empty_iff.mp h).1 (by decide)

theorem legible_argument (t : PathTest) : t.argument.Legible d := by
  have hn : (tokens? ("'" ++ t.name.text ++ "', ")).isSome = true := by
    cases t.name <;> decide
  have hc : Follows ("::" ++ t.value.cast) := by
    cases t.value <;> simp only [PathValue.cast] <;> decide
  exact (Template.Reads.sql_value_said (tokens?_said hn) _ hc).1

theorem reads_arguments (tests : List PathTest) :
    (Template.join ", " (tests.map PathTest.argument)).Reads d
      (Template.join ", " (tests.map PathTest.argument)).words := by
  refine ⟨Template.legible_join (by decide) (by decide) ?_, rfl⟩
  intro t ht
  obtain ⟨test, -, rfl⟩ := List.mem_map.mp ht
  exact legible_argument d test

theorem countsAll_head_eq (member array : Term) :
    "(SELECT COUNT(DISTINCT " ++ member.text d ++ ") FROM "
        ++ Listing.each.text (array.text d) ++ " WHERE " ++ member.text d ++ " IN ("
      = "(SELECT COUNT(DISTINCT " ++ (member.text d ++ (") FROM "
        ++ (Listing.each.text (array.text d) ++ (" WHERE " ++ (member.text d ++ " IN ("))))) := by
  simp only [String.append_assoc]

theorem reads_template (p : Predicate) : (p.template d).Reads d (p.words d) := by
  have ht := tokens?_term d
  induction p with
  | isTrue t =>
    have hs : Follows (isTrueText d) := by cases d <;> decide
    cases d <;> exact .sql (tokens?_append_said (ht t) hs)
  | compare c t v =>
    have hs : Follows (" " ++ (c.sql ++ " ")) := by cases c <;> decide
    rw [template, words, String.append_assoc, String.append_assoc]
    exact .sql_value (tokens?_append_said (ht t) hs) v
  | between t low high =>
    have hand : Template.Reads d [.sql " AND ", .value high] (said " AND ") :=
      .sql_value (tokens?_said (by decide)) high
    have hlow := Template.Reads.value_cons low hand (Template.opens_sql_cons _ (by decide))
    exact .sql_cons (tokens?_append_said (ht t) (by decide)) hlow rfl
  | like t pattern =>
    have hk : Follows d.likeKeyword := by cases d <;> decide
    exact .sql_value_said (tokens?_append_said (ht t) hk) _ (by decide)
  | inList t vs =>
    exact reads_sql_texts_said d (tokens?_append_said (ht t) (by decide)) vs (by decide)
  | outsideList t vs =>
    have hin : tokens? (" IS NULL OR " ++ (t.text d ++ " NOT IN (")) =
        some (said " IS NULL OR " ++ (t.tokens d ++ said " NOT IN (")) :=
      tokens?_enclosed (by decide) (ht t) (by decide)
    have hopens := opens_append (a := " IS NULL OR ") (t.text d ++ " NOT IN (") (by decide)
      (by decide)
    rw [template, words, String.append_assoc, String.append_assoc]
    exact reads_sql_texts_said d (tokens?_term_append d t hin hopens) vs (by decide)
  | equalsAny t vs =>
    exact .sql_value_said (tokens?_append_said (ht t) (by decide)) _ (by decide)
  | isNull t => exact .sql (tokens?_append_said (ht t) (by decide))
  | isNotNull t => exact .sql (tokens?_append_said (ht t) (by decide))
  | isBlank t =>
    have hor : tokens? (" IS NULL OR " ++ (t.text d ++ " = '')")) =
        some (said " IS NULL OR " ++ (t.tokens d ++ said " = '')")) :=
      tokens?_enclosed (by decide) (ht t) (by decide)
    have hopens := opens_append (a := " IS NULL OR ") (t.text d ++ " = '')") (by decide) (by decide)
    rw [template, words, String.append_assoc, String.append_assoc, String.append_assoc]
    exact .sql (tokens?_said_append (by decide) (tokens?_term_append d t hor hopens))
  | isNotBlank t => exact .sql (tokens?_append_said (ht t) (by decide))
  | hasNoElements t =>
    have hor := tokens?_said_append (a := " IS NULL OR ") (by decide)
      (tokens?_arrayLength d t (s := " = 0)") (by decide))
    have hopens := opens_append (a := " IS NULL OR ") (d.arrayLength (t.text d) ++ " = 0)")
      (by decide) (by decide)
    rw [template, words, String.append_assoc, String.append_assoc, String.append_assoc]
    exact .sql (tokens?_said_append (by decide) (tokens?_term_append d t hor hopens))
  | hasElements t => exact .sql (tokens?_arrayLength d t (by decide))
  | elementIsTrue => exact .said (by decide)
  | notTrue p ih =>
    have hc : closes d.notTrueOpening = true := by cases d <;> decide
    have hs : Follows d.notTrueClosing := by cases d <;> decide
    exact .closed_cons (tokens?_said (isSome_of_closes hc)) (ih.then_said hs) hc
  | someElement l array p ih =>
    obtain ⟨hs, hc⟩ := search_head d (a := "EXISTS (SELECT 1 FROM ") l array (by decide)
    rw [template, words, String.append_assoc]
    exact .closed_cons hs (ih.then_said (by decide)) hc
  | noElement l array p ih =>
    obtain ⟨hs, hc⟩ := search_head d (a := "NOT EXISTS (SELECT 1 FROM ") l array (by decide)
    rw [template, words, String.append_assoc]
    exact .closed_cons hs (ih.then_said (by decide)) hc
  | pathIsTrue t =>
    rw [template, words, String.append_assoc]
    exact .sql (tokens?_enclosed (by decide) (ht t) (by decide))
  | pathExists t tests =>
    obtain ⟨hs, hc⟩ := path_head d t tests
    rw [template, words, path_head_eq]
    exact .closed_cons hs ((reads_arguments d tests).then_said (by decide)) hc
  | hasMember t v =>
    exact .sql_value_said (tokens?_append_said (ht t) (by decide)) _ (by decide)
  | hasAnyMember t vs => exact .sql_value (tokens?_append_said (ht t) (by decide)) _
  | hasAllMembers t vs => exact .sql_value (tokens?_append_said (ht t) (by decide)) _
  | sameMembers t vs =>
    have hl := tokens?_enclosed (a := "(") (c := " @> ") (by decide) (ht t) (by decide)
    have hr := tokens?_enclosed (a := "::jsonb AND ") (c := " <@ ") (by decide) (ht t) (by decide)
    have hagain : Template.Reads d [.again, .sql "::jsonb)"] (said "::jsonb)") :=
      .again_said (by decide)
    have hopens := Template.opens_sql_append (a := "::jsonb AND ") (t.text d ++ " <@ ")
      [.again, .sql "::jsonb)"] (by decide)
    rw [template, words, String.append_assoc, String.append_assoc]
    exact .sql_cons hl (.value_cons _ (.sql_cons hr hagain rfl) hopens) rfl
  | countsAll member array vs =>
    have hin := tokens?_enclosed (a := " WHERE ") (c := " IN (") (by decide) (ht member) (by decide)
    have hlisted := tokens?_append (tokens?_listing d .each array) hin
      (.inl (closes_listing d .each array))
    have hfrom := tokens?_said_append (a := ") FROM ") (by decide) hlisted
    have hopens := opens_append (a := ") FROM ")
      (Listing.each.text (array.text d) ++ (" WHERE " ++ (member.text d ++ " IN (")))
      (by decide) (by decide)
    have hhead := tokens?_said_append (a := "(SELECT COUNT(DISTINCT ") (by decide)
      (tokens?_term_append d member hfrom hopens)
    have hclose := Template.opens_sql_cons (s := ")) = ")
      [.value (.int vs.length)] (by decide)
    rw [template, words, countsAll_head_eq]
    exact .sql_cons hhead (reads_texts_append d vs (.sql_value (tokens?_said (by decide)) _) hclose)
      (Template.opens_list_append _ hclose)
  | both p q ihp ihq =>
    have hand := Template.Reads.closed_cons (tokens?_said (s := " AND ") (by decide)) ihq (by decide)
    have hboth := Template.Reads.append ihp hand (Template.opens_sql_cons _ (by decide))
    exact .closed_cons (tokens?_said (by decide)) (hboth.then_said (by decide)) (by decide)

end Predicate

end RowFilter.Sql

/-! ## Plans -/

namespace RowFilter.Plan

open Sql

theorem closes_conjunction (c : Conjunction) : closes c.sql = true := by
  cases c <;> decide

theorem follows_conjunction (c : Conjunction) : Follows c.sql := by
  cases c <;> decide

mutual

/-- What holds of the predicates of a plan holds of the plan, if groups preserve it. -/
theorem template_induction {P : Template → Prop} {d : Dialect}
    (hgroup : ∀ (c : Conjunction) (ts : List Template), (∀ t ∈ ts, P t) →
      P (Template.parens (Template.join c.sql ts)))
    (t : Plan) (h : ∀ p ∈ t.leaves, P (p.template d)) : P (template d t) := by
  cases t with
  | leaf p => exact h p List.mem_cons_self
  | group c ts => exact hgroup c _ (templates_induction hgroup ts h)

theorem templates_induction {P : Template → Prop} {d : Dialect}
    (hgroup : ∀ (c : Conjunction) (ts : List Template), (∀ t ∈ ts, P t) →
      P (Template.parens (Template.join c.sql ts)))
    (ts : List Plan) (h : ∀ p ∈ Tree.leavesOf ts, P (p.template d)) :
    ∀ t ∈ templates d ts, P t := by
  cases ts with
  | nil => exact fun t ht => absurd ht List.not_mem_nil
  | cons u us =>
    intro t ht
    rcases List.mem_cons.mp ht with rfl | ht
    · exact template_induction hgroup u fun p hp => h p (List.mem_append_left _ hp)
    · exact templates_induction hgroup us (fun p hp => h p (List.mem_append_right _ hp)) t ht

end

/-- The text of a plan is read piece by piece. -/
theorem legible_template (d : Dialect) (t : Plan) : (template d t).Legible d := by
  refine template_induction (fun c ts hts => ?_) t fun p _ => (p.reads_template d).1
  have hj := Template.legible_join (closes_conjunction c) (follows_conjunction c) hts
  have hclose : Template.Legible d [.sql ")"] := .sql (tokens?_said (by decide))
  exact .sql_cons (by decide) (.append hj hclose (Template.opens_sql_cons _ (by decide)))

end RowFilter.Plan
