import RowFilter.Calendar.Zone.Database
import RowFilter.Proofs.Nesting
import RowFilter.Proofs.Vocabulary
/-!
# Compiled filters are self-contained

The text of a compiled filter ends outside quotes, its parentheses match, and no conjunction
stands outside of them: it can be joined by AND to other predicates, whatever the names of the
table and the columns.

Results:
* `leads_words`: the parentheses of a predicate match.
* `selfContained_plan`: so do those of a plan, and no conjunction stands outside of them.
* `compiled_selfContained`: the same for the predicate of a filter, with all it mentions.
-/
namespace RowFilter

open Sql

namespace Sql

instance (d e : Nat) (ts : List Token) : Decidable (Leads d ts e) :=
  inferInstanceAs (Decidable (Nesting.walk ⟨d, false⟩ ts = some ⟨e, false⟩))

theorem leads_commas (d n : Nat) : Leads d (commas n) d := by
  rw [commas]
  induction n - 1 with
  | zero => exact .nil d
  | succ n ih =>
    have hcomma : (Token.symbol ',').IsStill := ⟨by decide, by decide, rfl⟩
    exact .cons_of_still hcomma ih

theorem leads_term (dialect : Dialect) (t : Term) (n : Nat) :
    Leads n (t.tokens dialect) n := by
  have h : SelfContained (t.tokens dialect) := by
    induction t with
    | column table name =>
      have hn : Leads 0 [.identifier name] 0 := .cons_of_still (isStill_identifier name) (.nil 0)
      cases table with
      | none => exact hn
      | some table =>
        have hdot : (Token.symbol '.').IsStill := ⟨by decide, by decide, rfl⟩
        exact .cons_of_still (isStill_identifier table) (.cons_of_still hdot hn)
    | element => cases dialect <;> decide
    | field t key ih =>
      cases dialect with
      | postgres => cases key <;> exact .append ih (by decide)
      | sqlite =>
        cases key <;> exact .append (by decide) (.append (ih.deeper 1) (by decide))
    | asText t ih => exact .append (by decide) (.append (ih.deeper 1) (by decide))
    | ids t ih => exact .append (by decide) (.append (ih.deeper 2) (by decide))
  exact h.deeper n

theorem leads_listing (l : Listing) (dialect : Dialect) (t : Term) (n : Nat) :
    Leads n (l.tokens (t.tokens dialect)) n := by
  have h : SelfContained (l.tokens (t.tokens dialect)) := by
    have hopen : Leads 0 (Sql.said l.opening) 1 := by cases l <;> decide
    have hclose : Leads 1 (Sql.said l.closing) 0 := by cases l <;> decide
    exact .append hopen (.append (leads_term dialect t 1) hclose)
  exact h.deeper n

namespace Predicate

/-- Whether the predicate has an OR outside of all parentheses. -/
def isAlternative : Predicate → Bool
  | outsideList _ _ => true
  | _ => false

variable (d : Dialect)

theorem leads_argument (t : PathTest) (n : Nat) : Leads n t.argument.words n := by
  have hn : Leads 0 (said ("'" ++ t.name.text ++ "', ")) 0 := by
    cases t.name <;> decide
  have hc : Leads 0 (said ("::" ++ t.value.cast)) 0 := by
    cases t.value <;> simp only [PathValue.cast] <;> decide
  exact (Leads.append hn (.append hc (.nil 0))).deeper n

theorem leads_arguments (tests : List PathTest) (n : Nat) :
    Leads n (Template.join ", " (tests.map PathTest.argument)).words n := by
  refine Template.join_induction (P := fun t => Leads n t.words n) (.nil n) ?_ ?_
  · intro t u ht hu
    have hcomma : Leads 0 (said ", ") 0 := by decide
    rw [Template.words_append]
    exact .append ht (.append (hcomma.deeper n) hu)
  · intro t ht
    obtain ⟨test, -, rfl⟩ := List.mem_map.mp ht
    exact leads_argument test n

/-- Inside parentheses those of a predicate match; outside it is self-contained, unless it is
an alternative. -/
theorem leads_words (p : Predicate) :
    Leads 1 (p.words d) 1 ∧ (p.isAlternative = false → SelfContained (p.words d)) := by
  have ht := leads_term d
  have contained {q : Predicate} (h : SelfContained (q.words d)) :
      Leads 1 (q.words d) 1 ∧ (q.isAlternative = false → SelfContained (q.words d)) :=
    ⟨h.deeper 1, fun _ => h⟩
  induction p with
  | isTrue t =>
    refine contained (.append (ht t 0) ?_)
    cases d <;> decide
  | compare c t v =>
    refine contained (.append (ht t 0) ?_)
    cases c <;> decide
  | between t low high =>
    have hand : Leads 0 (said " BETWEEN " ++ said " AND ") 0 := by decide
    refine contained ?_
    rw [words, List.append_assoc]
    exact .append (ht t 0) hand
  | like t pattern =>
    have hk : Leads 0 (said d.likeKeyword) 0 := by cases d <;> decide
    exact contained (.append (.append (ht t 0) hk) (by decide))
  | inList t vs =>
    have hlist : Leads 1 (commas vs.length ++ said ")") 0 := .append (leads_commas 1 _) (by decide)
    exact contained (.append (.append (ht t 0) (by decide)) hlist)
  | outsideList t vs =>
    have hor : Leads 1 (said " IS NULL OR " ++ (t.tokens d ++ said " NOT IN (")) 2 :=
      .append (by decide) (.append (ht t 1) (by decide))
    have hlist : Leads 2 (commas vs.length ++ said ")") 1 := .append (leads_commas 2 _) (by decide)
    refine ⟨.append (.append (ht t 1) hor) hlist, ?_⟩
    intro h
    cases h
  | equalsAny t vs =>
    have hopen : Leads 0 (said " = ANY(") 1 := by decide
    exact contained (.append (.append (ht t 0) hopen) (by decide))
  | isNull t => exact contained (.append (ht t 0) (by decide))
  | isNotNull t => exact contained (.append (ht t 0) (by decide))
  | isBlank t =>
    have hor : Leads 1 (said " IS NULL OR " ++ (t.tokens d ++ said " = '')")) 0 :=
      .append (by decide) (.append (ht t 1) (by decide))
    exact contained (.append (by decide) (.append (ht t 1) hor))
  | isNotBlank t => exact contained (.append (ht t 0) (by decide))
  | hasNoElements t =>
    have hl : Leads 1 (said (arrayLengthText d)) 2 := by cases d <;> decide
    have hor : Leads 1 (said " IS NULL OR " ++ (said (arrayLengthText d)
        ++ (t.tokens d ++ said ") = 0)"))) 0 :=
      .append (by decide) (.append hl (.append (ht t 2) (by decide)))
    exact contained (.append (by decide) (.append (ht t 1) hor))
  | hasElements t =>
    have hl : Leads 0 (said (arrayLengthText d)) 1 := by cases d <;> decide
    exact contained (.append hl (.append (ht t 1) (by decide)))
  | elementIsTrue =>
    have hs : SelfContained (said "json_each.type = 'true'") := by decide
    exact contained hs
  | notTrue p ih =>
    refine contained ?_
    cases d with
    | postgres => exact .append (by decide) (.append ih.1 (by decide))
    | sqlite => exact .append (by decide) (.append (ih.1.deeper 1) (by decide))
  | someElement l array p ih =>
    have hhead : Leads 0 (said "EXISTS (SELECT 1 FROM "
        ++ (l.tokens (array.tokens d) ++ said " WHERE ")) 1 :=
      .append (by decide) (.append (leads_listing l d array 1) (by decide))
    exact contained (.append hhead (.append ih.1 (by decide)))
  | noElement l array p ih =>
    have hhead : Leads 0 (said "NOT EXISTS (SELECT 1 FROM "
        ++ (l.tokens (array.tokens d) ++ said " WHERE ")) 1 :=
      .append (by decide) (.append (leads_listing l d array 1) (by decide))
    exact contained (.append hhead (.append ih.1 (by decide)))
  | pathIsTrue t =>
    exact contained (.append (by decide) (.append (ht t 1) (by decide)))
  | pathExists t tests =>
    have hpath : Leads 1 [.literal (path tests)] 1 := .cons_of_still (isStill_literal _) (.nil 1)
    have hopen : Leads 1 (said ", " ++ ([.literal (path tests)]
        ++ said ", jsonb_build_object(")) 2 :=
      .append (by decide) (.append hpath (by decide))
    have hargs := leads_arguments tests 2
    exact contained (.append (.append (by decide) (.append (ht t 1) hopen))
      (.append hargs (by decide)))
  | hasMember t v =>
    have hopen : Leads 0 (said " @> jsonb_build_array(") 1 := by decide
    exact contained (.append (.append (ht t 0) hopen) (by decide))
  | hasAnyMember t vs => exact contained (.append (ht t 0) (by decide))
  | hasAllMembers t vs => exact contained (.append (ht t 0) (by decide))
  | sameMembers t vs =>
    have hl : Leads 0 (said "(" ++ (t.tokens d ++ said " @> ")) 1 :=
      .append (by decide) (.append (ht t 1) (by decide))
    have hr : Leads 1 (said "::jsonb AND " ++ (t.tokens d ++ said " <@ ")) 1 :=
      .append (by decide) (.append (ht t 1) (by decide))
    exact contained (.append hl (.append hr (by decide)))
  | countsAll member array vs =>
    have hin : Leads 1 (said " WHERE " ++ (member.tokens d ++ said " IN (")) 2 :=
      .append (by decide) (.append (ht member 1) (by decide))
    have hfrom : Leads 2 (said ") FROM " ++ (Listing.each.tokens (array.tokens d)
        ++ (said " WHERE " ++ (member.tokens d ++ said " IN (")))) 2 :=
      .append (by decide) (.append (leads_listing .each d array 1) hin)
    have hlist : Leads 2 (commas vs.length ++ said ")) = ") 0 :=
      .append (leads_commas 2 _) (by decide)
    exact contained (.append (.append (by decide) (.append (ht member 2) hfrom)) hlist)
  | both p q ihp ihq =>
    have hand : Leads 1 (said " AND " ++ q.words d) 1 := .append (by decide) ihq.1
    exact contained (.append (by decide) (.append (.append ihp.1 hand) (by decide)))

end Predicate

theorem Postgres.isAlternative_predicate (kind : CellKind) (t : Term) {n : Cardinality}
    (q : Criterion n) : (Postgres.predicate kind t q).isAlternative = false := by
  cases q with
  | passes test => cases n <;> cases test <;> rfl
  | fails test => cases n <;> cases test <;> rfl
  | isEmpty => cases n <;> cases kind <;> rfl
  | isNotEmpty => cases n <;> cases kind <;> rfl
  | hasAll ss => rfl
  | hasExactly ss => rfl

theorem Sqlite.isAlternative_predicate (kind : CellKind) (t : Term) {n : Cardinality}
    (q : Criterion n) : (Sqlite.predicate kind t q).isAlternative = false := by
  cases q with
  | passes test => cases n <;> cases test <;> rfl
  | fails test => cases n <;> cases test <;> rfl
  | isEmpty => cases n <;> cases kind <;> rfl
  | isNotEmpty => cases n <;> cases kind <;> rfl
  | hasAll ss => rfl
  | hasExactly ss => rfl

end Sql

/-- No condition compiles to an alternative without parentheses around it. -/
theorem Requirement.isAlternative_predicate (d : Dialect) (table : Option String)
    (r : Requirement) : (r.predicate d table).isAlternative = false := by
  cases d with
  | postgres => exact Postgres.isAlternative_predicate _ _ r.criterion
  | sqlite => exact Sqlite.isAlternative_predicate _ _ r.criterion

/-! ## Plans -/

namespace Plan

variable {d : Dialect}

theorem leads_join (c : Conjunction) {ts : List Template} (h : ∀ t ∈ ts, SelfContained t.words) :
    Leads 1 (Template.join c.sql ts).words 1 := by
  refine Template.join_induction (P := fun t => Leads 1 t.words 1) (.nil 1) ?_
    fun t ht => (h t ht).deeper 1
  intro t u ht hu
  have hc : Leads 1 (said c.sql) 1 := by cases c <;> decide
  rw [Template.words_append]
  exact .append ht (.append hc hu)

/-- The parentheses of a plan match, and no conjunction stands outside of them. -/
theorem selfContained_plan (t : Plan) (h : ∀ p ∈ t.leaves, p.isAlternative = false) :
    SelfContained (template d t).words := by
  refine template_induction (P := fun t => SelfContained t.words) (fun c ts hts => ?_) t ?_
  · rw [Template.parens, Template.words, Template.words_append]
    exact .append (by decide) (.append (leads_join c hts) (.append (by decide) (.nil 0)))
  · intro p hp
    rw [(Predicate.reads_template d p).2]
    exact (p.leads_words d).2 (h p hp)

end Plan

/-! ## Templates with their placeholders -/

namespace Sql

/-- Placeholders are neither parentheses nor keywords. -/
theorem walk_tokens (d : Dialect) (n : Nesting) (k : Nat) (t : Template) :
    n.walk (t.tokens d k) = n.walk t.words := by
  induction t generalizing n k with
  | nil => rfl
  | cons p t ih =>
    cases p with
    | sql s =>
      have hw : Template.words (.sql s :: t) = said s ++ Template.words t := rfl
      rw [hw, Template.tokens, Nesting.walk_append, Nesting.walk_append]
      exact congrArg _ (funext fun m => ih m k)
    | value v =>
      rw [Template.tokens, Nesting.walk_cons, Nesting.step_of_still (isStill_mark d (k + 1))]
      exact ih n (k + 1)
    | again =>
      rw [Template.tokens, Nesting.walk_cons, Nesting.step_of_still (isStill_mark d k)]
      exact ih n k

/-- A token of a template that is no placeholder is one of its SQL. -/
theorem mem_words_of_mem_tokens {d : Dialect} {t : Template} {k : Nat} {w : Token}
    (h : w ∈ t.tokens d k) : w ∈ t.words ∨ ∃ n, w = d.mark n := by
  induction t generalizing k with
  | nil => cases h
  | cons p t ih =>
    cases p with
    | sql s =>
      rcases List.mem_append.mp h with h | h
      · exact .inl (List.mem_append_left _ h)
      · exact (ih h).imp_left (List.mem_append_right _)
    | value v =>
      rcases List.mem_cons.mp h with rfl | h
      · exact .inr ⟨_, rfl⟩
      · exact ih h
    | again =>
      rcases List.mem_cons.mp h with rfl | h
      · exact .inr ⟨_, rfl⟩
      · exact ih h

end Sql

/-! ## Compiled filters -/

/-- The columns that requirements name are those of the leaves of the filter. -/
theorem Compiler.column_of_leaf {c : Compiler} {schema : Schema} {ctx : Context} {f : Filter}
    {rs : Tree Requirement} (h : c.requirements schema ctx f = .ok (some rs)) {r : Requirement}
    (hr : r ∈ rs.leaves) : ∃ q ∈ f.leaves, schema q.columnId = some r.column := by
  obtain ⟨g, hg, htr⟩ := c.requirements_ok schema h
  obtain ⟨q', hq', hread⟩ :=
    exists_mem_of_forall₂ (forall₂_of_mapM (Tree.mapM_leaves_of_traverse g htr)) hr
  obtain ⟨_, _, hcolumn, -⟩ := c.requirement_ok schema hread
  obtain ⟨q, hq, hprep⟩ := f.mem_leaves_of_prepare hg hq'
  exact ⟨q, hq, (Condition.prepare_ok hprep).1 ▸ hcolumn⟩

/-- The tokens of a compiled filter, placeholders aside, are those of its table and columns. -/
theorem Compiler.allowed_written (c : Compiler) (k : Nat) (rs : Tree Requirement) :
    ∃ ts, tokens? (c.written k rs).sql = some ts ∧ SelfContained ts
      ∧ ∀ t ∈ ts, t.Allowed c.dialect (c.table.toList ++ rs.leaves.map fun r => r.column.dbName)
        ∨ ∃ n, t = c.dialect.mark n := by
  have hleaves : (c.planOf rs).leaves
      = rs.leaves.map (Requirement.predicate c.dialect c.table) := Tree.leaves_map _ rs
  refine ⟨_, Plan.legible_template c.dialect (c.planOf rs) k, ?_, ?_⟩
  · rw [SelfContained, Leads, walk_tokens]
    refine Plan.selfContained_plan (c.planOf rs) fun p hp => ?_
    rw [hleaves] at hp
    obtain ⟨r, -, rfl⟩ := List.mem_map.mp hp
    exact r.isAlternative_predicate c.dialect c.table
  · intro t ht
    refine (mem_words_of_mem_tokens ht).imp_left (Plan.allowed_plan (c.planOf rs) ?_ t)
    intro p hp
    rw [hleaves] at hp
    obtain ⟨r, hr, rfl⟩ := List.mem_map.mp hp
    refine Requirement.fits_predicate (fun name hname => ?_) c.dialect
    rcases List.mem_append.mp hname with hname | hname
    · exact List.mem_append_left _ hname
    · rw [List.mem_singleton.mp hname]
      exact List.mem_append_right _ (List.mem_map_of_mem hr)

/-- Two texts with AND between them are read one after the other. -/
theorem tokens?_and {a b : String} {us ts : List Token} (ha : tokens? a = some us)
    (hb : tokens? b = some ts) : tokens? (a ++ " AND " ++ b) = some (us ++ .word "AND" :: ts) := by
  have hand : said " AND " = [.word "AND"] := said_of_tokens? (by decide)
  rw [tokens?_between ha hb (by decide) (by decide), hand, List.singleton_append]

/-- Appending a self-contained text with AND to predicates adds an operand to theirs. -/
theorem conjuncts?_and {a b : String} {us ts : List Token} {uss : List (List Token)}
    (ha : tokens? a = some us) (hb : tokens? b = some ts) (hu : conjuncts? us = some uss)
    (ht : SelfContained ts) :
    tokens? (a ++ " AND " ++ b) = some (us ++ .word "AND" :: ts)
      ∧ conjuncts? (us ++ .word "AND" :: ts) = some (uss ++ [ts]) :=
  ⟨tokens?_and ha hb, conjuncts?_append hu ht⟩

/-- The text of a compiled filter ends outside quotes, its parentheses match, and no conjunction
stands outside of them but the AND of a BETWEEN. Whatever the names are, its identifiers are the
table and columns that conditions name, and its literals are a fixed few. So it can be appended
with AND to other predicates and is an operand of its own there. -/
theorem compiled_selfContained (c : Compiler) (schema : Schema) (ctx : Context) (k : Nat)
    (f : Filter) {out : CompiledPredicate} (h : c.predicate schema ctx k f = .ok (some out)) :
    ∃ ts, tokens? out.sql = some ts ∧ SelfContained ts
      ∧ (∀ name, .identifier name ∈ ts → c.table = some name
        ∨ ∃ q ∈ f.leaves, ∃ column, schema q.columnId = some column ∧ column.dbName = name)
      ∧ (∀ s, .literal s ∈ ts → s ∈ literals)
      ∧ ∀ a us uss, tokens? a = some us → conjuncts? us = some uss →
        tokens? (a ++ " AND " ++ out.sql) = some (us ++ .word "AND" :: ts)
          ∧ conjuncts? (us ++ .word "AND" :: ts) = some (uss ++ [ts]) := by
  obtain ⟨rs, hrs, rfl⟩ := c.predicate_ok schema h
  obtain ⟨ts, hts, hself, hallowed⟩ := c.allowed_written k rs
  refine ⟨ts, hts, hself, ?_, ?_, fun a us uss ha hu => conjuncts?_and ha hts hu hself⟩
  · intro name hmem
    rcases hallowed _ hmem with (hfixed | ⟨name', hname, heq⟩) | ⟨n, heq⟩
    · cases hfixed
    · cases heq
      rcases List.mem_append.mp hname with hname | hname
      · exact .inl (Option.mem_toList.mp hname)
      · obtain ⟨r, hr, rfl⟩ := List.mem_map.mp hname
        obtain ⟨q, hq, hcolumn⟩ := Compiler.column_of_leaf hrs hr
        exact .inr ⟨q, hq, r.column, hcolumn, rfl⟩
    · cases hd : c.dialect <;> rw [hd] at heq <;> cases heq
  · intro s hmem
    rcases hallowed _ hmem with (hfixed | ⟨name, -, heq⟩) | ⟨n, heq⟩
    · exact of_decide_eq_true hfixed
    · cases heq
    · cases hd : c.dialect <;> rw [hd] at heq <;> cases heq

/-- A column of dates with a name that tries to end its quotes. -/
def hostileName : Schema :=
  Schema.ofList [{ id := "due", dbName := "d\" OR (1=1", semanticType := .datetime }]

/-- Dates on the first of July 2024. -/
def onFirstOfJuly : Filter :=
  .leaf { columnId := "due", operator := "equals",
          value := .obj [("mode", .str "exactDate"), ("exactDate", .str "2024-07-01")] }

theorem compiled_selfContained_hostileName :
    ∃ out ts, (Compiler.mk .sqlite .bundled .utc "me" none).predicate hostileName
        ⟨none, ⟨0, 0⟩⟩ 0 onFirstOfJuly = .ok (some out)
      ∧ tokens? out.sql = some ts ∧ SelfContained ts := by
  obtain ⟨ts, hts, hself, -⟩ :=
    compiled_selfContained (.mk .sqlite .bundled .utc "me" none) hostileName
      ⟨none, ⟨0, 0⟩⟩ 0 onFirstOfJuly rfl
  exact ⟨_, ts, rfl, hts, hself⟩

end RowFilter
