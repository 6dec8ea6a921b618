import RowFilter.Proofs.Placeholders
/-!
# Placeholders read as their parameters

A template is filled in by putting each of its values where it stands. Reading the numbered
placeholders of its text as the parameters with these numbers gives the same, whatever stands
before and after its values among the parameters; so does reading question marks in turn.

Results:
* `bindNumbers?_tokens`: the placeholders of a template are read as its values.
* `separate_template`: no placeholder of a plan repeats a value of anything before it.
* `bindMarks_written`, `bindNumbers?_written`: the placeholders of a compiled filter are read as its
  values.
-/
namespace RowFilter

open Sql

namespace Sql

/-! ## Filling in -/

namespace Template

/-- A template with each value where it stands; `last` is the value bound before. None if that is
to be repeated and there is none. -/
def filled? (last : Option Value) : Template → Option (List Item)
  | [] => some []
  | .sql s :: ps => (filled? last ps).map ((said s).map .token ++ ·)
  | .value v :: ps => (filled? (some v) ps).map (.value v :: ·)
  | .again :: ps => last.bind fun v => (filled? last ps).map (.value v :: ·)

/-- A template that repeats no value of anything before it is filled in alike after all. -/
theorem filled?_of_none {t : Template} {is : List Item} (h : t.filled? none = some is)
    (last : Option Value) : t.filled? last = some is := by
  induction t generalizing is with
  | nil => exact h
  | cons p t ih =>
    cases p with
    | sql s =>
      obtain ⟨js, hjs, hcons⟩ := Option.map_eq_some_iff.mp h
      rw [filled?, ih hjs, Option.map_some, hcons]
    | value v => exact h
    | again => cases h

theorem filled?_append {s t : Template} {last : Option Value} {is js : List Item}
    (hs : s.filled? last = some is) (ht : t.filled? none = some js) :
    (s ++ t).filled? last = some (is ++ js) := by
  induction s generalizing last is with
  | nil =>
    cases hs
    exact filled?_of_none ht last
  | cons p s ih =>
    cases p with
    | sql u =>
      obtain ⟨ks, hks, rfl⟩ := Option.map_eq_some_iff.mp hs
      rw [List.cons_append, filled?, ih hks, Option.map_some, List.append_assoc]
    | value v =>
      obtain ⟨ks, hks, rfl⟩ := Option.map_eq_some_iff.mp hs
      rw [List.cons_append, filled?, ih hks, Option.map_some, List.cons_append]
    | again =>
      obtain ⟨v, rfl, hv⟩ := Option.bind_eq_some_iff.mp hs
      obtain ⟨ks, hks, rfl⟩ := Option.map_eq_some_iff.mp hv
      rw [List.cons_append, filled?, ih hks, Option.bind_some, Option.map_some, List.cons_append]

/-- A template that repeats nothing is filled in with its values in turn, whatever is bound
before. -/
theorem filled?_of_once {t : Template} (h : .again ∉ t) (last : Option Value) :
    t.filled? last = some t.items := by
  induction t generalizing last with
  | nil => rfl
  | cons p t ih =>
    have ht : .again ∉ t := fun hm => h (List.mem_cons_of_mem _ hm)
    cases p with
    | sql s => rw [filled?, ih ht]; rfl
    | value v => rw [filled?, ih ht]; rfl
    | again => exact absurd List.mem_cons_self h

/-- A value that is bound stands somewhere. -/
theorem mem_of_filled? {t : Template} {last : Option Value} {is : List Item}
    (h : t.filled? last = some is) {v : Value} (hv : v ∈ t.values) : .value v ∈ is := by
  induction t generalizing last is with
  | nil => cases hv
  | cons p t ih =>
    cases p with
    | sql s =>
      obtain ⟨js, hjs, rfl⟩ := Option.map_eq_some_iff.mp h
      exact List.mem_append_right _ (ih hjs hv)
    | value w =>
      obtain ⟨js, hjs, rfl⟩ := Option.map_eq_some_iff.mp h
      obtain rfl | hv := List.mem_cons.mp hv
      · exact List.mem_cons_self
      · exact List.mem_cons_of_mem _ (ih hjs hv)
    | again =>
      obtain ⟨w, -, h⟩ := Option.bind_eq_some_iff.mp h
      obtain ⟨js, hjs, rfl⟩ := Option.map_eq_some_iff.mp h
      exact List.mem_cons_of_mem _ (ih hjs hv)

end Template

/-! ## Reading placeholders -/

/-- The parameter with a number, counted from one. -/
def parameter? (vs : List Value) : Nat → Option Value
  | 0 => none
  | n + 1 => vs[n]?

/-- Reads each numbered placeholder as the parameter with the number. None if there is no such. -/
def bindNumbers? (vs : List Value) : List Token → Option (List Item)
  | [] => some []
  | t :: ts =>
    match t.number? with
    | none => (bindNumbers? vs ts).map (.token t :: ·)
    | some n => (parameter? vs n).bind fun v => (bindNumbers? vs ts).map (.value v :: ·)

theorem bindNumbers?_append {ts : List Token} (h : ∀ t ∈ ts, t.number? = none) (vs : List Value)
    (us : List Token) :
    bindNumbers? vs (ts ++ us) = (bindNumbers? vs us).map (ts.map .token ++ ·) := by
  induction ts with
  | nil => exact (Option.map_id' (x := bindNumbers? vs us)).symm
  | cons t ts ih =>
    have ht := h t List.mem_cons_self
    rw [List.cons_append, bindNumbers?, ht, ih fun u hu => h u (List.mem_cons_of_mem _ hu),
      Option.map_map]
    rfl

theorem parameter?_length (ps vs : List Value) :
    parameter? (ps ++ vs) ps.length = ps.getLast? := by
  rcases List.eq_nil_or_concat ps with rfl | ⟨ps, v, rfl⟩
  · rfl
  · simp [parameter?]

/-- The placeholders of a template are read as its values, if these are the parameters after
those bound before. -/
theorem bindNumbers?_tokens {t : Template} (hw : ∀ w ∈ t.words, w.number? = none)
    (ps vs : List Value) :
    bindNumbers? (ps ++ (t.values ++ vs)) (t.tokens .postgres ps.length)
      = t.filled? ps.getLast? := by
  induction t generalizing ps with
  | nil => rfl
  | cons p t ih =>
    cases p with
    | sql s =>
      have hs : ∀ w ∈ said s, w.number? = none := fun w hm => hw w (List.mem_append_left _ hm)
      have ht := ih (fun w hm => hw w (List.mem_append_right _ hm)) ps
      rw [Template.tokens, bindNumbers?_append hs, Template.filled?, ← ht]
      rfl
    | value v =>
      have ht := ih hw (ps ++ [v])
      rw [List.length_append, List.getLast?_concat, List.append_assoc] at ht
      have hv : parameter? (ps ++ (v :: (Template.values t ++ vs))) (ps.length + 1) = some v := by
        simp [parameter?]
      show (parameter? (ps ++ (v :: (Template.values t ++ vs))) (ps.length + 1)).bind _ = _
      rw [hv, Option.bind_some]
      exact congrArg (Option.map _) ht
    | again =>
      have ht := ih hw ps
      show (parameter? (ps ++ (Template.values t ++ vs)) ps.length).bind _ = _
      rw [parameter?_length]
      exact congrArg _ (funext fun v => congrArg (Option.map _) ht)

/-- A predicate repeats no value but its own. -/
theorem Predicate.isSome_filled? {names : List String} (p : Predicate)
    (h : p.Fits .postgres names) : ((p.template .postgres).filled? none).isSome = true := by
  cases hr : p.repeats with
  | false =>
    rw [Template.filled?_of_once (p.again_not_mem_template ⟨hr, h⟩) none]
    rfl
  | true =>
    cases p with
    | sameMembers t vs => rfl
    | _ => cases hr

end Sql

/-! ## Plans -/

namespace Plan

/-- Its SQL has no numbered placeholder, and it repeats no value of anything before it. -/
def Separate (t : Template) : Prop :=
  (∀ w ∈ t.words, w.number? = none) ∧ (t.filled? none).isSome = true

theorem Separate.append {s t : Template} (hs : Separate s) (ht : Separate t) :
    Separate (s ++ t) := by
  refine ⟨?_, ?_⟩
  · intro w hw
    rw [Template.words_append] at hw
    exact (List.mem_append.mp hw).elim (hs.1 w) (ht.1 w)
  · obtain ⟨is, his⟩ := Option.isSome_iff_exists.mp hs.2
    obtain ⟨js, hjs⟩ := Option.isSome_iff_exists.mp ht.2
    rw [Template.filled?_append his hjs]
    rfl

theorem Separate.sql {s : String} (h : ∀ w ∈ said s, w.number? = none) : Separate [.sql s] :=
  ⟨by simpa [Template.words] using h, rfl⟩

/-- Plans whose predicates are separate are so too. -/
theorem separate_template (t : Plan) (h : ∀ p ∈ t.leaves, Separate (p.template .postgres)) :
    Separate (template .postgres t) := by
  refine template_induction (fun c ts hts => ?_) t h
  have hopening := Separate.sql (s := "(") (by decide)
  have hclosing := Separate.sql (s := ")") (by decide)
  have hjoint : Separate [.sql c.sql] := by cases c <;> exact .sql (by decide)
  have hjoin : Separate (Template.join c.sql ts) :=
    Template.join_induction ⟨by simp [Template.words], rfl⟩
      (fun t u ht hu => ht.append (hjoint.append hu)) hts
  exact hopening.append (hjoin.append hclosing)

/-- Its SQL has no question mark, and it repeats no value. -/
def Unmarked (t : Template) : Prop := .symbol '?' ∉ t.words ∧ .again ∉ t

theorem Unmarked.append {s t : Template} (hs : Unmarked s) (ht : Unmarked t) :
    Unmarked (s ++ t) := by
  simp [Unmarked, hs.1, hs.2, ht.1, ht.2]

theorem Unmarked.sql {s : String} (h : .symbol '?' ∉ said s) : Unmarked [.sql s] := by
  simp [Unmarked, Template.words, h]

/-- Plans whose predicates are unmarked are so too. -/
theorem unmarked_template (t : Plan) (h : ∀ p ∈ t.leaves, Unmarked (p.template .sqlite)) :
    Unmarked (template .sqlite t) := by
  refine template_induction (fun c ts hts => ?_) t h
  have hopening : Unmarked [.sql "("] := .sql (by decide)
  have hclosing : Unmarked [.sql ")"] := .sql (by decide)
  have hjoint : Unmarked [.sql c.sql] := by cases c <;> exact .sql (by decide)
  have hjoin : Unmarked (Template.join c.sql ts) :=
    Template.join_induction (by simp [Unmarked, Template.words])
      (fun t u ht hu => ht.append (hjoint.append hu)) hts
  exact hopening.append (hjoin.append hclosing)

end Plan

/-- The text of compiled requirements, its question marks read as the parameters in turn, is that of
the plan with its values in place. -/
theorem Compiler.bindMarks_written {c : Compiler} (hc : c.dialect = .sqlite) (rs : Tree Requirement)
    (k : Nat) : ∃ ts is, tokens? (c.written k rs).sql = some ts
      ∧ ((c.planOf rs).template .sqlite).filled? none = some is
      ∧ bindMarks ts (c.written k rs).params.values = some is := by
  have hleaf : ∀ p ∈ (c.planOf rs).leaves, Plan.Unmarked (p.template .sqlite) := by
    intro p hp
    obtain ⟨r, -, rfl⟩ := List.mem_map.mp ((Tree.leaves_map _ rs) ▸ hp)
    have hfits : (r.predicate .sqlite c.table).Fits .sqlite _ :=
      Requirement.fits_predicate (fun _ h => h) .sqlite
    rw [hc]
    exact ⟨Predicate.mark_not_mem_words _ hfits,
      Predicate.again_not_mem_template _ (Predicate.fitsInside_of_sqlite hfits)⟩
  obtain ⟨hwords, honce⟩ := Plan.unmarked_template (c.planOf rs) hleaf
  refine ⟨_, _, Plan.legible_template c.dialect (c.planOf rs) k,
    Template.filled?_of_once honce none, ?_⟩
  rw [written, hc]
  exact bindMarks_tokens hwords honce k

/-- The text of compiled requirements, its placeholders read as parameters, is that of the plan with
its values in place, as long as these are the parameters after the `ps` before. -/
theorem Compiler.bindNumbers?_written {c : Compiler} (hc : c.dialect = .postgres)
    (rs : Tree Requirement) (ps vs : List Value) :
    ∃ ts is, tokens? (c.written ps.length rs).sql = some ts
      ∧ ((c.planOf rs).template .postgres).filled? none = some is
      ∧ bindNumbers? (ps ++ ((c.written ps.length rs).params.values ++ vs)) ts = some is := by
  have hleaf : ∀ p ∈ (c.planOf rs).leaves, Plan.Separate (p.template .postgres) := by
    intro p hp
    obtain ⟨r, -, rfl⟩ := List.mem_map.mp ((Tree.leaves_map _ rs) ▸ hp)
    have hfits : (r.predicate .postgres c.table).Fits .postgres _ :=
      Requirement.fits_predicate (fun _ h => h) .postgres
    rw [hc]
    exact ⟨Predicate.number?_of_mem_words hfits, Predicate.isSome_filled? _ hfits⟩
  obtain ⟨hwords, hfilled⟩ := Plan.separate_template (c.planOf rs) hleaf
  obtain ⟨is, his⟩ := Option.isSome_iff_exists.mp hfilled
  refine ⟨_, is, Plan.legible_template c.dialect (c.planOf rs) ps.length, his, ?_⟩
  have hread := bindNumbers?_tokens hwords ps vs
  rw [Template.filled?_of_none his] at hread
  rw [← hread, written, hc]

end RowFilter
