import RowFilter.Proofs.Tokens
/-!
# Legible templates

A template is legible if its text is read piece by piece: no name, value or neighbouring text
runs into another. Whether it is comes down to the places where two pieces meet.

Results:
* `tokens?_term`: a term is read as `Term.tokens`.
* `Legible.append`, `Legible.sql_cons`: where a template may be cut.
* `Reads.append` and those after it: the same with the tokens of the SQL.
* `join_induction`: what holds of templates and of two with a text between holds of a list.
* `legible_list`: lists of values are legible.
-/
namespace RowFilter.Sql

/-! ## Texts made of several -/

/-- The tokens of a text that ends outside quotes. -/
def said (s : String) : List Token := (tokens? s).getD []

theorem said_of_tokens? {s : String} {ts : List Token} (h : tokens? s = some ts) : said s = ts := by
  rw [said, h]; rfl

theorem tokens?_said {s : String} (h : (tokens? s).isSome = true) : tokens? s = some (said s) := by
  obtain ⟨ts, hts⟩ := Option.isSome_iff_exists.mp h
  rw [said_of_tokens? hts, hts]

/-- A text that is read by itself whatever stands before it. -/
def Follows (s : String) : Prop := (tokens? s).isSome = true ∧ opens s = true ∧ s ≠ ""

instance (s : String) : Decidable (Follows s) :=
  inferInstanceAs (Decidable (_ ∧ opens s = true ∧ s ≠ ""))

/-- Any text, and then one that may follow it. -/
theorem tokens?_append_said {a b : String} {ts : List Token} (ha : tokens? a = some ts)
    (hb : Follows b) : tokens? (a ++ b) = some (ts ++ said b) :=
  tokens?_append ha (tokens?_said hb.1) (.inr hb.2.1)

/-- A text that ends between two tokens, and then any other. -/
theorem tokens?_said_append {a b : String} {us : List Token} (ha : closes a = true)
    (hb : tokens? b = some us) : tokens? (a ++ b) = some (said a ++ us) :=
  tokens?_append (tokens?_said (isSome_of_closes ha)) hb (.inl ha)

/-- Any text between two such. -/
theorem tokens?_enclosed {a b c : String} {ts : List Token} (ha : closes a = true)
    (hb : tokens? b = some ts) (hc : Follows c) :
    tokens? (a ++ (b ++ c)) = some (said a ++ (ts ++ said c)) :=
  tokens?_said_append ha (tokens?_append_said hb hc)

/-- Two texts with one between that no token goes through. -/
theorem tokens?_between {a s b : String} {us ts : List Token} (ha : tokens? a = some us)
    (hb : tokens? b = some ts) (hc : closes s = true) (hf : Follows s) :
    tokens? (a ++ s ++ b) = some (us ++ (said s ++ ts)) := by
  rw [String.append_assoc]
  exact tokens?_append ha (tokens?_said_append hc hb) (.inr (opens_append b hf.2.1 hf.2.2))

/-! ## Terms -/

namespace Term

theorem text_field_postgres (t : Term) (key : Field) :
    (field t key).text .postgres = t.text .postgres ++ ("->>'" ++ (key.name ++ "'")) := by
  have h : (field t key).text .postgres = t.text .postgres ++ "->>'" ++ key.name ++ "'" := rfl
  rw [h, String.append_assoc, String.append_assoc]

theorem text_field_sqlite (t : Term) (key : Field) : (field t key).text .sqlite =
    "json_extract(" ++ (t.text .sqlite ++ (", '$." ++ (key.name ++ "')"))) := by
  have h : (field t key).text .sqlite =
    "json_extract(" ++ t.text .sqlite ++ ", '$." ++ key.name ++ "')" := rfl
  rw [h, String.append_assoc, String.append_assoc, String.append_assoc]

theorem text_asText (d : Dialect) (t : Term) :
    (asText t).text d = "CAST(" ++ (t.text d ++ " AS TEXT)") := String.append_assoc

theorem text_ids (d : Dialect) (t : Term) : (ids t).text d =
    "(SELECT jsonb_agg(elem->>'id') FROM jsonb_array_elements(" ++ (t.text d ++ ") AS elem)") :=
  String.append_assoc

/-- The element of an array in a search. -/
def elementText : Dialect → String
  | .postgres => "elem.value"
  | .sqlite => "json_each.value"

def tokens (d : Dialect) : Term → List Token
  | column table name =>
    (table.map fun t => [.identifier t, .symbol '.']).getD [] ++ [.identifier name]
  | element => said (elementText d)
  | field t key =>
    match d with
    | .postgres => t.tokens d ++ said ("->>'" ++ (key.name ++ "'"))
    | .sqlite => said "json_extract(" ++ (t.tokens d ++ said (", '$." ++ (key.name ++ "')")))
  | asText t => said "CAST(" ++ (t.tokens d ++ said " AS TEXT)")
  | ids t =>
    said "(SELECT jsonb_agg(elem->>'id') FROM jsonb_array_elements(" ++ (t.tokens d ++ said ") AS elem)")

end Term

theorem tokens?_columnText (table : Option String) (name : String) (d : Dialect) :
    tokens? (columnText table name) = some ((Term.column table name).tokens d) := by
  cases table with
  | none => exact tokens?_quoteIdentifier name
  | some t =>
    have hdot : tokens? "." = some [.symbol '.'] := by decide
    have ht : tokens? (Dialect.quoteIdentifier t ++ ".") = some [.identifier t, .symbol '.'] :=
      tokens?_append (tokens?_quoteIdentifier t) hdot (.inr (by decide))
    have hc : closes (Dialect.quoteIdentifier t ++ ".") = true :=
      closes_append (tokens?_quoteIdentifier t) (by decide) (.inr (by decide))
    exact tokens?_append ht (tokens?_quoteIdentifier name) (.inl hc)

theorem tokens?_term (d : Dialect) (t : Term) : tokens? (t.text d) = some (t.tokens d) := by
  induction t with
  | column table name => exact tokens?_columnText table name d
  | element =>
    have h : (tokens? (Term.elementText d)).isSome = true := by cases d <;> decide
    have ht : Term.element.text d = Term.elementText d := by cases d <;> rfl
    rw [ht, Term.tokens, tokens?_said h]
  | field t key ih =>
    cases d with
    | postgres =>
      rw [Term.text_field_postgres, Term.tokens]
      cases key <;> exact tokens?_append_said ih (by decide)
    | sqlite =>
      rw [Term.text_field_sqlite, Term.tokens]
      cases key <;> exact tokens?_enclosed (by decide) ih (by decide)
  | asText t ih =>
    rw [Term.text_asText, Term.tokens]
    exact tokens?_enclosed (by decide) ih (by decide)
  | ids t ih =>
    rw [Term.text_ids, Term.tokens]
    exact tokens?_enclosed (by decide) ih (by decide)

/-- A term, and then a text that does not go on with its last token. -/
theorem tokens?_term_append (d : Dialect) (t : Term) {s : String} {us : List Token}
    (hs : tokens? s = some us) (ho : opens s = true) :
    tokens? (t.text d ++ s) = some (t.tokens d ++ us) :=
  tokens?_append (tokens?_term d t) hs (.inr ho)

/-! ## Templates -/

namespace Template

/-- The tokens of a template when `k` parameters are bound before. -/
def tokens (d : Dialect) (k : Nat) : Template → List Token
  | [] => []
  | .sql s :: ps => said s ++ tokens d k ps
  | .value _ :: ps => d.mark (k + 1) :: tokens d (k + 1) ps
  | .again :: ps => d.mark k :: tokens d k ps

/-- The tokens of the SQL of a template, without its placeholders. -/
def words : Template → List Token
  | [] => []
  | .sql s :: ps => said s ++ words ps
  | _ :: ps => words ps

/-- Whether no token of a text before goes on into the template. -/
def opens : Template → Bool
  | .sql s :: _ => Sql.opens s && s ≠ ""
  | _ => true

theorem opens_sql_cons {s : String} (t : Template) (h : Follows s) :
    opens (.sql s :: t) = true := by
  simp [opens, h.2]

theorem opens_sql_append {a : String} (b : String) (t : Template) (h : Follows a) :
    opens (.sql (a ++ b) :: t) = true := by
  have ho : Sql.opens (a ++ b) = true := opens_append b h.2.1 h.2.2
  have hne : a ++ b ≠ "" := fun hab => h.2.2 (String.append_eq_empty_iff.mp hab).1
  simp [opens, ho, hne]

/-- Whatever parameters are bound before, the text is read piece by piece. -/
def Legible (d : Dialect) (t : Template) : Prop := ∀ k, tokens? (t.text d k) = some (t.tokens d k)

theorem tokens_append (d : Dialect) (k : Nat) (s t : Template) :
    tokens d k (s ++ t) = tokens d k s ++ tokens d (k + s.values.length) t := by
  induction s generalizing k with
  | nil => rfl
  | cons p s ih =>
    cases p with
    | sql _ => simp [tokens, values, ih]
    | value _ => simp [tokens, values, ih, Nat.add_assoc, Nat.add_comm]
    | again => simp [tokens, values, ih]

@[simp] theorem words_append (s t : Template) : words (s ++ t) = words s ++ words t := by
  induction s with
  | nil => rfl
  | cons p s ih => cases p <;> simp [words, ih]

theorem text_cons_sql (d : Dialect) (k : Nat) (s : String) (t : Template) :
    text d k (.sql s :: t) = s ++ text d k t := String.join_cons

theorem text_sql (d : Dialect) (k : Nat) (s : String) : text d k [.sql s] = s := by
  rw [text_cons_sql, text, pieceTexts, String.join_nil, String.append_empty]

theorem opens_text {t : Template} (d : Dialect) (k : Nat) (h : t.opens = true) :
    Sql.opens (t.text d k) = true := by
  cases t with
  | nil => exact (by decide : Sql.opens "" = true)
  | cons p t =>
    cases p with
    | sql s =>
      simp only [opens, Bool.and_eq_true, ne_eq, decide_eq_true_eq] at h
      rw [text_cons_sql]
      exact opens_append _ h.1 h.2
    | value v =>
      rw [text, pieceTexts, String.join_cons]
      exact opens_append _ (opens_placeholder d (k + 1)) (placeholder_ne_empty d _)
    | again =>
      rw [text, pieceTexts, String.join_cons]
      exact opens_append _ (opens_placeholder d k) (placeholder_ne_empty d _)

namespace Legible

variable {d : Dialect}

theorem append {s t : Template} (hs : Legible d s) (ht : Legible d t) (h : t.opens = true) :
    Legible d (s ++ t) := by
  intro k
  rw [text_append, tokens_append]
  exact tokens?_append (hs k) (ht _) (.inr (opens_text d _ h))

/-- A text that ends between two tokens may stand before any template. -/
theorem sql_cons {s : String} {t : Template} (hs : closes s = true) (ht : Legible d t) :
    Legible d (.sql s :: t) := by
  intro k
  rw [text_cons_sql, tokens]
  exact tokens?_said_append hs (ht k)

theorem nil : Legible d [] := fun _ => (by decide : tokens? "" = some [])

theorem sql {s : String} {ts : List Token} (hs : tokens? s = some ts) : Legible d [.sql s] := by
  intro k
  rw [text_sql, tokens, tokens, said_of_tokens? hs, List.append_nil, hs]

theorem value (v : Value) : Legible d [.value v] := by
  intro k
  simpa [text, pieceTexts, tokens] using tokens?_placeholder d (k + 1)

theorem again : Legible d [.again] := by
  intro k
  simpa [text, pieceTexts, tokens] using tokens?_placeholder d k

/-- A piece before a template that goes on with none of its tokens. -/
theorem cons {p : Piece} {t : Template} (hp : Legible d [p]) (ht : Legible d t)
    (h : t.opens = true) : Legible d (p :: t) := by
  rw [← List.singleton_append]
  exact append hp ht h

end Legible

/-- The text is read piece by piece, its SQL as the given tokens. -/
def Reads (d : Dialect) (t : Template) (ws : List Token) : Prop := Legible d t ∧ t.words = ws

namespace Reads

variable {d : Dialect} {t u : Template} {ws us : List Token}

theorem append (ht : Reads d t ws) (hu : Reads d u us) (h : u.opens = true) :
    Reads d (t ++ u) (ws ++ us) :=
  ⟨ht.1.append hu.1 h, by rw [words_append, ht.2, hu.2]⟩

theorem sql {s : String} (hs : tokens? s = some ws) : Reads d [.sql s] ws :=
  ⟨.sql hs, by rw [words, words, List.append_nil, said_of_tokens? hs]⟩

/-- SQL that ends between two tokens, and then any template. -/
theorem closed_cons {s : String} (hs : tokens? s = some us) (ht : Reads d t ws)
    (hc : closes s = true) : Reads d (.sql s :: t) (us ++ ws) :=
  ⟨.sql_cons hc ht.1, by rw [words, said_of_tokens? hs, ht.2]⟩

/-- SQL, and then a template that does not go on with its last token. -/
theorem sql_cons {s : String} (hs : tokens? s = some us) (ht : Reads d t ws)
    (h : t.opens = true) : Reads d (.sql s :: t) (us ++ ws) :=
  ⟨.cons (.sql hs) ht.1 h, by rw [words, said_of_tokens? hs, ht.2]⟩

/-- SQL that is not cut. -/
theorem said {s : String} (h : (tokens? s).isSome = true) : Reads d [.sql s] (Sql.said s) :=
  .sql (tokens?_said h)

/-- A template, and then SQL that may follow it. -/
theorem then_said {s : String} (ht : Reads d t ws) (h : Follows s) :
    Reads d (t ++ [.sql s]) (ws ++ Sql.said s) :=
  .append ht (.said h.1) (opens_sql_cons [] h)

theorem value (v : Value) : Reads d [.value v] [] := ⟨.value v, rfl⟩

theorem value_cons (v : Value) (ht : Reads d t ws) (h : t.opens = true) :
    Reads d (.value v :: t) ws :=
  ⟨.cons (.value v) ht.1 h, ht.2⟩

theorem sql_value {s : String} (hs : tokens? s = some ws) (v : Value) :
    Reads d [.sql s, .value v] ws := by
  rw [← List.append_nil ws]
  exact .sql_cons hs (.value v) rfl

/-- A value between two texts. -/
theorem sql_value_said {s u : String} (hs : tokens? s = some ws) (v : Value) (h : Follows u) :
    Reads d [.sql s, .value v, .sql u] (ws ++ Sql.said u) :=
  .sql_cons hs (.value_cons v (.said h.1) (opens_sql_cons [] h)) rfl

theorem again_said {s : String} (h : Follows s) : Reads d [.again, .sql s] (Sql.said s) :=
  have hs : Reads d [.sql s] (Sql.said s) := .said h.1
  ⟨.cons .again hs.1 (opens_sql_cons [] h), hs.2⟩

end Reads

end Template

/-! ## Lists of values -/

/-- The commas between values. -/
def commas (n : Nat) : List Token := List.replicate (n - 1) (.symbol ',')

theorem said_comma : said ", " = [.symbol ','] := said_of_tokens? (by decide)

namespace Template

theorem join_cons_cons (separator : String) (t u : Template) (us : List Template) :
    join separator (t :: u :: us) = t ++ .sql separator :: join separator (u :: us) := rfl

/-- What holds of templates holds of them with a text between, if it holds of two with that text
between and of nothing. -/
theorem join_induction {P : Template → Prop} {separator : String} (hnil : P [])
    (happend : ∀ t u, P t → P u → P (t ++ .sql separator :: u)) {ts : List Template}
    (h : ∀ t ∈ ts, P t) : P (join separator ts) := by
  induction ts with
  | nil => exact hnil
  | cons t ts ih =>
    have ht := h t List.mem_cons_self
    have hts := ih fun u hu => h u (List.mem_cons_of_mem _ hu)
    cases ts with
    | nil => exact ht
    | cons u us => exact happend t _ ht hts

/-- Legible templates with a text between them that no token goes through. -/
theorem legible_join {d : Dialect} {separator : String} (hc : closes separator = true)
    (hf : Follows separator) {ts : List Template} (h : ∀ t ∈ ts, Legible d t) :
    Legible d (join separator ts) := by
  refine join_induction .nil ?_ h
  intro t u ht hu
  exact ht.append (.sql_cons hc hu) (opens_sql_cons u hf)

theorem legible_list (d : Dialect) (vs : List Value) : Legible d (list vs) := by
  refine legible_join (by decide) (by decide) fun t ht => ?_
  obtain ⟨v, -, rfl⟩ := List.mem_map.mp ht
  exact .value v

theorem opens_list_append (vs : List Value) {t : Template} (h : t.opens = true) :
    (list vs ++ t).opens = true := by
  cases vs with
  | nil => exact h
  | cons v vs => cases vs <;> rfl

@[simp] theorem words_list (vs : List Value) : words (list vs) = commas vs.length := by
  induction vs with
  | nil => rfl
  | cons v vs ih =>
    cases vs with
    | nil => rfl
    | cons w ws =>
      have step : words (list (v :: w :: ws)) = said ", " ++ words (list (w :: ws)) := rfl
      rw [step, ih, said_comma]
      rfl

end Template

end RowFilter.Sql
