import RowFilter.Proofs.Parameters
/-!
# Where values stand

A text that is filled in is a list of tokens with values among them. What is said of a value there
depends on the items before and after it: `EachValue` says it of all of them. A statement about
neighbours that more items around do not spoil is true of a text if it is of its parts.

Results:
* `eachValue_append`: the values of two lists of items, each with the other list beside it.
* `Placed.append`, `Placed.list`: what holds in templates holds in those made of them.
* `Predicate.placed_like` and those beside it: where each predicate has its values.
-/
namespace RowFilter.Sql

/-! ## Neighbours -/

/-- Tokens as items. -/
def plain (ts : List Token) : List Item := ts.map .token

/-- The items end with these tokens. -/
def Ends (is : List Item) (ts : List Token) : Prop := plain ts <:+ is

/-- The items begin with these tokens. -/
def Begins (is : List Item) (ts : List Token) : Prop := plain ts <+: is

theorem plain_append (ts us : List Token) : plain (ts ++ us) = plain ts ++ plain us :=
  List.map_append

theorem Ends.append {is : List Item} {ts : List Token} (h : Ends is ts) (js : List Item) :
    Ends (js ++ is) ts := h.trans (List.suffix_append js is)

theorem Begins.append {is : List Item} {ts : List Token} (h : Begins is ts) (js : List Item) :
    Begins (is ++ js) ts := h.trans (List.prefix_append is js)

theorem ends_plain (ts us : List Token) : Ends (plain (ts ++ us)) us :=
  plain_append ts us ▸ List.suffix_append _ _

theorem begins_plain (ts us : List Token) : Begins (plain (ts ++ us)) ts :=
  plain_append ts us ▸ List.prefix_append _ _

theorem getLast?_of_suffix {is js : List Item} {i : Item} (h : js <:+ is)
    (hj : js.getLast? = some i) : is.getLast? = some i := by
  obtain ⟨ks, rfl⟩ := h
  rw [List.getLast?_append, hj]
  rfl

theorem Ends.of_append {is : List Item} {ts us : List Token} (h : Ends is (ts ++ us)) : Ends is us :=
  .trans (ends_plain ts us) h

theorem Ends.getLast? {is : List Item} {ts : List Token} {t : Token} (h : Ends is ts)
    (ht : ts.getLast? = some t) : is.getLast? = some (.token t) := by
  refine getLast?_of_suffix h ?_
  rw [plain, List.getLast?_map, ht]
  rfl

/-! ## Every value -/

/-- `P` holds of every value among the items, with those before it and those after it. -/
def EachValue (P : List Item → Value → List Item → Prop) (is : List Item) : Prop :=
  ∀ before v after, is = before ++ .value v :: after → P before v after

section

variable {P Q : List Item → Value → List Item → Prop} {is js : List Item}

theorem EachValue.mono (h : EachValue P is)
    (hPQ : ∀ before v after, P before v after → Q before v after) : EachValue Q is :=
  fun before v after his => hPQ before v after (h before v after his)

theorem eachValue_append : EachValue P (is ++ js)
    ↔ EachValue (fun before v after => P before v (after ++ js)) is
      ∧ EachValue (fun before v after => P (is ++ before) v after) js := by
  constructor
  · intro h
    refine ⟨fun before v after his => ?_, fun before v after hjs => ?_⟩
    · exact h before v (after ++ js) (by rw [his, List.append_assoc, List.cons_append])
    · exact h (is ++ before) v after (by rw [hjs, List.append_assoc])
  · rintro ⟨hl, hr⟩ before v after h
    obtain ⟨a, hbefore, hjs⟩ | ⟨a, his, hafter⟩ := List.append_eq_append_iff.mp h
    · exact hbefore ▸ hr a v after hjs
    · -- The value is the first of `js`, or it is in `is`.
      cases a with
      | nil =>
        rw [List.append_nil] at his
        exact his ▸ (List.append_nil is ▸ hr [] v after hafter.symm)
      | cons i a =>
        obtain ⟨rfl, rfl⟩ := List.cons.inj hafter
        exact hl before v a his

theorem eachValue_plain (ts : List Token) : EachValue P (plain ts) := by
  intro before v after h
  have hmem : Item.value v ∈ plain ts := by rw [h]; simp
  obtain ⟨t, -, ht⟩ := List.mem_map.mp hmem
  cases ht

theorem eachValue_value {v : Value} : EachValue P [.value v] ↔ P [] v [] := by
  constructor
  · exact fun h => h [] v [] rfl
  · intro h before w after heq
    cases before with
    | nil =>
      cases heq
      exact h
    | cons i before => cases before <;> cases heq

/-- A value, and then other items. -/
theorem eachValue_cons {v : Value} : EachValue P (.value v :: is)
    ↔ P [] v is ∧ EachValue (fun before w after => P (.value v :: before) w after) is := by
  rw [← List.singleton_append, eachValue_append, eachValue_value]
  rfl

end

/-- Further items around do not make `P` false. -/
def Local (P : List Item → Value → List Item → Prop) : Prop :=
  ∀ before v after, P before v after → ∀ is js, P (is ++ before) v (after ++ js)

/-! ## Templates -/

/-- The template repeats no value of anything before it, and filled in it has each value where `P`
holds. -/
def Placed (P : List Item → Value → List Item → Prop) (t : Template) : Prop :=
  ∃ is, t.filled? none = some is ∧ EachValue P is

section

variable {P : List Item → Value → List Item → Prop} {s t : Template}

theorem Placed.append (hP : Local P) (hs : Placed P s) (ht : Placed P t) : Placed P (s ++ t) := by
  obtain ⟨is, his, hi⟩ := hs
  obtain ⟨js, hjs, hj⟩ := ht
  refine ⟨is ++ js, Template.filled?_append his hjs, eachValue_append.mpr ⟨?_, ?_⟩⟩
  · exact hi.mono fun before v after h => hP before v after h [] js
  · exact hj.mono fun before v after h => by simpa using hP before v after h is []

theorem Placed.sql (a : String) : Placed P [.sql a] :=
  ⟨plain (said a) ++ [], rfl, by rw [List.append_nil]; exact eachValue_plain (said a)⟩

theorem Placed.enclosed (hP : Local P) (a b : String) (ht : Placed P t) :
    Placed P (.sql a :: (t ++ [.sql b])) :=
  .append hP (.sql a) (.append hP ht (.sql b))

theorem Placed.value {a : String} {v : Value} (h : P (plain (said a)) v []) :
    Placed P [.sql a, .value v] := by
  refine ⟨plain (said a) ++ [.value v], rfl, eachValue_append.mpr ⟨eachValue_plain _, ?_⟩⟩
  rw [eachValue_value, List.append_nil]
  exact h

theorem Placed.value_between {a b : String} {v : Value}
    (h : P (plain (said a)) v (plain (said b))) : Placed P [.sql a, .value v, .sql b] := by
  refine ⟨plain (said a) ++ .value v :: (plain (said b) ++ []), rfl,
    eachValue_append.mpr ⟨eachValue_plain _, eachValue_cons.mpr ⟨?_, ?_⟩⟩⟩
  · rw [List.append_nil, List.append_nil]
    exact h
  · rw [List.append_nil]
    exact eachValue_plain _

end

/-! ## Lists of texts -/

/-- Texts with a comma after each, as they stand before another in a list. -/
def listed (ss : List String) : List Item :=
  ss.flatMap fun s => [.value (.text s), .token (.symbol ',')]

/-- The items of a list of texts. -/
def listItems : List String → List Item
  | [] => []
  | [s] => [.value (.text s)]
  | s :: ss => .value (.text s) :: .token (.symbol ',') :: listItems ss

theorem filled?_list (ss : List String) (last : Option Value) :
    (Template.list (ss.map .text)).filled? last = some (listItems ss) := by
  induction ss generalizing last with
  | nil => rfl
  | cons s ss ih =>
    cases ss with
    | nil => rfl
    | cons u us =>
      have step : Template.list ((s :: u :: us).map .text)
          = .value (.text s) :: .sql ", " :: Template.list ((u :: us).map .text) := rfl
      rw [step, Template.filled?, Template.filled?, ih, said_comma]
      rfl

theorem eachValue_listItems (ss : List String) :
    EachValue (fun before v _ => ∃ us s, before = listed us ∧ v = .text s) (listItems ss) := by
  induction ss with
  | nil => exact eachValue_plain []
  | cons s ss ih =>
    cases ss with
    | nil => exact eachValue_value.mpr ⟨[], s, rfl, rfl⟩
    | cons u us =>
      have hcomma : listItems (s :: u :: us)
          = .value (.text s) :: (plain [.symbol ','] ++ listItems (u :: us)) := rfl
      rw [hcomma, eachValue_cons, eachValue_append]
      refine ⟨⟨[], s, rfl, rfl⟩, eachValue_plain _, ih.mono ?_⟩
      rintro _ v _ ⟨us, w, rfl, rfl⟩
      exact ⟨s :: us, w, rfl, rfl⟩

theorem Placed.list {P : List Item → Value → List Item → Prop} {a : String} {t : Template}
    {is : List Item} (ss : List String) (ht : t.filled? none = some is)
    (h : ∀ us s after, P (plain (said a) ++ listed us) (.text s) after)
    (his : EachValue
      (fun before v after => P (plain (said a) ++ listItems ss ++ before) v after) is) :
    Placed P (.sql a :: (Template.list (ss.map .text) ++ t)) := by
  have hfilled : Template.filled? none (.sql a :: (Template.list (ss.map .text) ++ t))
      = some (plain (said a) ++ (listItems ss ++ is)) := by
    rw [Template.filled?, Template.filled?_append (filled?_list ss none) ht]
    rfl
  refine ⟨_, hfilled, ?_⟩
  rw [eachValue_append, eachValue_append]
  refine ⟨eachValue_plain _, (eachValue_listItems ss).mono ?_, ?_⟩
  · rintro _ _ after ⟨us, s, rfl, rfl⟩
    exact h us s _
  · exact his.mono fun before v after hv => by rwa [List.append_assoc] at hv

/-! ## Predicates -/

theorem said_comparison (c : Comparison) : said (" " ++ (c.sql ++ " ")) = said c.sql := by
  cases c <;> decide

theorem said_variable (name : PathVariable) :
    said ("'" ++ name.text ++ "', ") = [.literal name.text, .symbol ','] := by
  cases name <;> decide

/-- What stands before the number in the search of an array for one. -/
def numberSearch (array : List Token) (c : Comparison) : List Token :=
  said "jsonb_path_exists(" ++ (array ++ (said ", " ++ ([.literal ("$[*] ? (@ " ++ c.path ++ " $v)")]
    ++ said ", jsonb_build_object('v', ")))

/-- What stands before the list in a search that counts the members of an array that are in it. -/
def countSearch (member array : List Token) : List Token :=
  said "(SELECT COUNT(DISTINCT " ++ (member ++ (said ") FROM "
    ++ (Listing.each.tokens array ++ (said " WHERE " ++ (member ++ said " IN (")))))

namespace Predicate

variable {d : Dialect} {P : List Item → Value → List Item → Prop} {t : Term}

/-- A term, and then a text that may follow it. -/
theorem said_term {s : String} (hs : Follows s) : said (t.text d ++ s) = t.tokens d ++ said s :=
  said_of_tokens? (tokens?_append_said (tokens?_term d t) hs)

theorem placed_compare {c : Comparison} {v : Value}
    (h : P (plain (t.tokens d ++ said c.sql)) v []) : Placed P ((compare c t v).template d) := by
  have hs : Follows (" " ++ (c.sql ++ " ")) := by cases c <;> decide
  refine .value ?_
  rw [String.append_assoc, String.append_assoc, said_term hs, said_comparison]
  exact h

theorem placed_between {low high : Value}
    (hlow : P (plain (t.tokens d ++ said " BETWEEN ")) low (plain (said " AND ") ++ [.value high]))
    (hhigh : P (plain (t.tokens d ++ said " BETWEEN ")
      ++ .value low :: plain (said " AND ")) high []) :
    Placed P ((between t low high).template d) := by
  refine ⟨plain (said (t.text d ++ " BETWEEN "))
    ++ .value low :: (plain (said " AND ") ++ [.value high]), rfl, ?_⟩
  rw [said_term (by decide), eachValue_append, eachValue_cons, eachValue_append, eachValue_value,
    List.append_nil, List.append_nil]
  exact ⟨eachValue_plain _, hlow, eachValue_plain _, hhigh⟩

theorem placed_like {pattern : String} (h : P (plain (t.tokens d ++ said d.likeKeyword))
    (.text pattern) (plain (said Dialect.likeEscape))) : Placed P ((like t pattern).template d) := by
  have hk : Follows d.likeKeyword := by cases d <;> decide
  exact .value_between (said_term hk ▸ h)

theorem placed_equalsAny {ss : List String}
    (h : P (plain (t.tokens d ++ said " = ANY(")) (.textArray ss) (plain (said ")"))) :
    Placed P ((equalsAny t ss).template d) :=
  .value_between (by rwa [said_term (by decide)])

theorem placed_hasMember {s : String} (h : P (plain (t.tokens d ++ said " @> jsonb_build_array("))
    (.text s) (plain (said "::text)"))) : Placed P ((hasMember t s).template d) :=
  .value_between (by rwa [said_term (by decide)])

theorem placed_hasAnyMember {ss : List String}
    (h : P (plain (t.tokens d ++ said " ?| ")) (.textArray ss) []) :
    Placed P ((hasAnyMember t ss).template d) :=
  .value (by rwa [said_term (by decide)])

theorem placed_hasAllMembers {ss : List String}
    (h : P (plain (t.tokens d ++ said " ?& ")) (.textArray ss) []) :
    Placed P ((hasAllMembers t ss).template d) :=
  .value (by rwa [said_term (by decide)])

/-- The one list of an exact list stands on both sides. -/
theorem placed_sameMembers {ss : List String} (hP : Local P)
    (h : ∀ ts ∈ [said " @> ", said " <@ "],
      P (plain ts) (.json (.arr (ss.map Json.str))) (plain (said "::jsonb"))) :
    Placed P ((sameMembers t ss).template d) := by
  have hl : said ("(" ++ t.text d ++ " @> ") = said "(" ++ t.tokens d ++ said " @> " := by
    rw [String.append_assoc, List.append_assoc]
    exact said_of_tokens? (tokens?_enclosed (by decide) (tokens?_term d t) (by decide))
  have hr : said ("::jsonb AND " ++ t.text d ++ " <@ ")
      = said "::jsonb" ++ (said " AND " ++ t.tokens d ++ said " <@ ") := by
    have hjsonb : said "::jsonb AND " = said "::jsonb" ++ said " AND " := by decide
    rw [String.append_assoc, List.append_assoc, ← List.append_assoc, ← hjsonb]
    exact said_of_tokens? (tokens?_enclosed (by decide) (tokens?_term d t) (by decide))
  have hclose : said "::jsonb)" = said "::jsonb" ++ said ")" := by decide
  refine ⟨plain (said ("(" ++ t.text d ++ " @> ")) ++ .value (.json (.arr (ss.map Json.str)))
    :: (plain (said ("::jsonb AND " ++ t.text d ++ " <@ ")) ++ .value (.json (.arr (ss.map Json.str)))
      :: (plain (said "::jsonb)") ++ [])), rfl, ?_⟩
  rw [hl, hr, hclose, eachValue_append, eachValue_cons, eachValue_append, eachValue_cons]
  refine ⟨eachValue_plain _, ?_, eachValue_plain _, ?_, ?_⟩
  · simpa only [plain_append, List.append_assoc, List.append_nil] using
      hP _ _ _ (h (said " @> ") (by simp)) (plain (said "(" ++ t.tokens d)) _
  · simpa only [plain_append, List.append_assoc, List.append_nil, List.cons_append] using
      hP _ _ _ (h (said " <@ ") (by simp)) (plain (said "(" ++ t.tokens d ++ said " @> ")
        ++ .value (.json (.arr (ss.map Json.str)))
          :: plain (said "::jsonb" ++ (said " AND " ++ t.tokens d))) (plain (said ")"))
  · rw [List.append_nil]
    exact eachValue_plain _

theorem placed_inList {ss : List String}
    (h : ∀ ts us s after, P (plain (ts ++ said " IN (") ++ listed us) (.text s) after) :
    Placed P ((inList t ss).template d) := by
  have hclosing : Template.filled? none [.sql ")"] = some (plain (said ")")) := rfl
  refine .list ss hclosing ?_ (eachValue_plain _)
  rw [said_term (by decide)]
  exact h _

theorem placed_outsideList {ss : List String}
    (h : ∀ ts us s after, P (plain (ts ++ said " IN (") ++ listed us) (.text s) after) :
    Placed P ((outsideList t ss).template d) := by
  have hin := tokens?_enclosed (a := " IS NULL OR ") (c := " NOT IN (") (by decide)
    (tokens?_term d t) (by decide)
  have ho := opens_append (a := " IS NULL OR ") (t.text d ++ " NOT IN (") (by decide) (by decide)
  have hnot : said " NOT IN (" = [.word "NOT"] ++ said " IN (" := by decide
  have hclosing : Template.filled? none [.sql ")"] = some (plain (said ")")) := rfl
  refine .list ss hclosing ?_ (eachValue_plain _)
  rw [String.append_assoc, String.append_assoc, said_of_tokens? (tokens?_term_append d t hin ho),
    hnot]
  simp only [← List.append_assoc]
  exact h _

theorem placed_countsAll {member array : Term} {ss : List String}
    (h : ∀ ts us s after, P (plain (ts ++ said " IN (") ++ listed us) (.text s) after)
    (hcount : P (plain (countSearch (member.tokens d) (array.tokens d)) ++ listItems ss
      ++ plain (said ")) = ")) (.int ss.length) []) :
    Placed P ((countsAll member array ss).template d) := by
  -- The tokens of the whole are known, and those after the first text too.
  have hwords := (reads_template d (countsAll member array ss)).2
  rw [template, words, Template.words, Template.words_append, Template.words_list,
    List.length_map] at hwords
  have hhead := List.append_cancel_right hwords
  have hclosing : Template.filled? none [.sql ")) = ", .value (.int ss.length)]
      = some (plain (said ")) = ") ++ [.value (.int ss.length)]) := rfl
  refine .list ss hclosing ?_ ?_
  · rw [hhead]
    simp only [← List.append_assoc]
    exact h _
  · rw [eachValue_append, eachValue_value, hhead]
    exact ⟨eachValue_plain _, by rwa [List.append_nil]⟩

theorem placed_pathExists {tests : List PathTest} (hP : Local P)
    (h : ∀ test ∈ tests, P (plain [.literal test.name.text, .symbol ',']) test.value.value
      (plain (said ("::" ++ test.value.cast)))) :
    Placed P ((pathExists t tests).template d) := by
  refine .enclosed hP _ _ (Template.join_induction ⟨[], rfl, eachValue_plain []⟩ ?_ ?_)
  · exact fun s u hs hu => .append hP hs (.append hP (s := [.sql ", "]) (.sql ", ") hu)
  · intro u hu
    obtain ⟨test, htest, rfl⟩ := List.mem_map.mp hu
    exact .value_between (said_variable test.name ▸ h test htest)

theorem placed_numberSearch {c : Comparison} {x : Binary64} (hP : Local P)
    (h : P (plain (numberSearch (t.tokens d) c)) (.float x) (plain (said "::float8"))) :
    Placed P ((pathExists t [⟨c, .v, .float x⟩]).template d) := by
  have hpath : path [⟨c, .v, .float x⟩] = "$[*] ? (@ " ++ c.path ++ " $v)" := by
    rw [path_one]
    cases c <;> decide
  have hhead : said ("jsonb_path_exists(" ++ t.text d ++ ", '$[*] ? ("
      ++ String.intercalate " && " ([⟨c, .v, .float x⟩].map PathTest.pathText)
      ++ ")', jsonb_build_object(") ++ said "'v', " = numberSearch (t.tokens d) c := by
    have hopening : said ", jsonb_build_object('v', "
        = said ", jsonb_build_object(" ++ said "'v', " := by decide
    rw [path_head_eq, said_of_tokens? (path_head d t _).1, hpath, numberSearch, hopening]
    simp only [List.append_assoc]
  refine ⟨plain (numberSearch (t.tokens d) c) ++ .value (.float x)
    :: (plain (said "::float8") ++ (plain (said "))") ++ [])), ?_, ?_⟩
  · rw [← hhead, plain_append, List.append_assoc]
    rfl
  · rw [eachValue_append, eachValue_cons, List.append_nil, List.append_nil, ← plain_append]
    refine ⟨eachValue_plain _, ?_, eachValue_plain _⟩
    rw [plain_append]
    exact hP _ _ _ h [] _

end Predicate

end RowFilter.Sql
