import RowFilter.Calendar.Zone.Database
import RowFilter.Proofs.Composition
import RowFilter.Proofs.Noninterference
import RowFilter.Proofs.Verdict
import RowFilter.Text.Blank.Lemmas
/-!
# Spellings of operators

An operator can be named in many ways: by its name or by a symbol, in either case of letters, with
blanks around it and between its words, and an ordering of dates by a word or by its operator.
Which of them a condition takes has no part in what it compiles to.

Results:
* `operator?_eq_some_iff`: the texts that stand for an operator.
* `read?_ok`: a date word is read as the operator it stands for.
* `requirements_congr`: a filter requires the same however its operators are spelt.
* `predicate_eq_of_respelt`: a filter with its operators spelt otherwise has the same predicate.
-/
namespace RowFilter

open Sql

/-! ## What is written for an operator -/

/-- What stands for an operator on a kind of cell: its name with blanks around it, or a symbol that
it has there, in either case of letters, with blanks around it and between its words. The flag says
whether it is a symbol. -/
inductive Operator.IsWritten (kind : CellKind) (op : Operator) : String → Bool → Prop
  | name {s : String} {a b : List Char} (ha : Text.IsGap a) (hb : Text.IsGap b)
    (hs : s.toList = a ++ op.name.toList ++ b) : IsWritten kind op s false
  | symbol {s : String} {words : List (List Char)} (hs : Text.Spaced words s.toList)
    (hop : ((String.intercalate " " (words.map String.ofList)).map Char.toUpper, op)
      ∈ kind.symbolFamily.table) : IsWritten kind op s true

theorem Operator.isTrimmed_name (op : Operator) : Text.IsTrimmed op.name.toList := by
  have h (op : Operator) : (∀ c ∈ op.name.toList.head?, Text.isBlank c = false)
      ∧ ∀ c ∈ op.name.toList.getLast?, Text.isBlank c = false := by
    cases op <;> exact ⟨by rintro _ ⟨⟩; decide, by rintro _ ⟨⟩; decide⟩
  exact h op

theorem Operator.name_injective : Function.Injective Operator.name := by
  intro op op' h
  have hname := op.ofName?_name
  rw [h, ofName?_name] at hname
  exact (Option.some.inj hname).symm

theorem Operator.ofName?_eq_some_iff {s : String} {op : Operator} :
    Operator.ofName? s = some op ↔ op.name = Text.trim s := by
  constructor
  · intro h
    simpa using List.find?_some h
  · intro h
    obtain ⟨op', hop'⟩ : ∃ op', Operator.ofName? s = some op' := by
      rw [← Option.isSome_iff_exists, ofName?, List.find?_isSome]
      exact ⟨op, op.mem_all, by simpa using h⟩
    have hname' : op'.name = Text.trim s := by simpa using List.find?_some hop'
    rw [hop', name_injective (hname'.trans h.symm)]

/-- No symbol stands in a table twice. -/
theorem SymbolFamily.eq_of_mem_table (f : SymbolFamily) :
    ∀ p ∈ f.table, ∀ q ∈ f.table, p.1 = q.1 → p = q := by
  cases f <;> decide

theorem SymbolFamily.mem_table_of_operator? {f : SymbolFamily} {s : String} {op : Operator}
    (h : f.operator? s = some op) : (normalize s, op) ∈ f.table := by
  obtain ⟨⟨symbol, op'⟩, hfind, rfl⟩ := Option.map_eq_some_iff.mp h
  have hsymbol : symbol = normalize s := by simpa using List.find?_some hfind
  exact hsymbol ▸ List.mem_of_find?_eq_some hfind

theorem SymbolFamily.operator?_eq_some_iff {f : SymbolFamily} {s : String} {op : Operator} :
    f.operator? s = some op ↔ (normalize s, op) ∈ f.table := by
  refine ⟨mem_table_of_operator?, fun h => ?_⟩
  have hsome : (f.operator? s).isSome := by
    rw [operator?, Option.isSome_map, List.find?_isSome]
    exact ⟨_, h, by simp⟩
  obtain ⟨op', hop⟩ := Option.isSome_iff_exists.mp hsome
  cases f.eq_of_mem_table _ (mem_table_of_operator? hop) _ h rfl
  exact hop

/-- The texts that stand for an operator. -/
theorem Condition.operator?_eq_some_iff {q : Condition} {kind : CellKind} {op : Operator} :
    q.operator? kind = some op ↔ op.IsWritten kind q.operator q.isSymbol := by
  obtain ⟨id, s, v, isSymbol⟩ := q
  cases isSymbol with
  | false =>
    show Operator.ofName? s = some op ↔ op.IsWritten kind s false
    rw [Operator.ofName?_eq_some_iff, Text.trim, eq_comm, ← String.toList_inj, String.toList_ofList,
      Text.trimChars_eq_iff op.isTrimmed_name]
    constructor
    · rintro ⟨a, b, ha, hb, hs⟩
      exact .name ha hb hs
    · rintro ⟨ha, hb, hs⟩
      exact ⟨_, _, ha, hb, hs⟩
  | true =>
    show kind.symbolFamily.operator? s = some op ↔ op.IsWritten kind s true
    rw [SymbolFamily.operator?_eq_some_iff, SymbolFamily.normalize]
    have hwords : Text.words s = (Text.wordChars s.toList).map String.ofList :=
      Text.words_eq_iff.mpr (Text.spaced_wordChars _)
    constructor
    · intro h
      exact .symbol (Text.spaced_wordChars _) (hwords ▸ h)
    · intro h
      cases h with
      | symbol hs hop => rwa [Text.words_eq_iff.mpr hs]

/-! ## Reading a date word -/

namespace Operator

@[simp] theorem isPresenceCheck_canonical (op : Operator) :
    op.canonical.isPresenceCheck = op.isPresenceCheck := by cases op <;> rfl

@[simp] theorem takesDateFilter_canonical (op : Operator) :
    op.canonical.takesDateFilter = op.takesDateFilter := by cases op <;> rfl

@[simp] theorem canonical_eq_within {op : Operator} : op.canonical = within ↔ op = within := by
  cases op <;> decide

end Operator

namespace Criterion

variable {n : Cardinality} {s t : Site} {v : Json}

/-- Which operand is read has nothing to do with the operator; the error names it. -/
theorem operand_ok {α β : Type} (t : Site) {x : Except ValueFault α} {f : α → β} {b : β}
    (h : (s.operand x).map f = .ok b) : (t.operand x).map f = .ok b := by
  cases x with
  | error e => cases h
  | ok a => exact h

section

variable (hop : t.op.canonical = s.op.canonical)

include hop

theorem within_iff : t.op = .within ↔ s.op = .within := by
  rw [← Operator.canonical_eq_within, hop, Operator.canonical_eq_within]

theorem dateFilter_ok {f : DateFilter} (h : s.dateFilter v = .ok f) : t.dateFilter v = .ok f := by
  obtain ⟨g, hg, h⟩ := ok_of_bind h
  have hg' : t.operand ((DateFilter.decode v).mapError .notADateFilter) = .ok g := by
    cases hd : DateFilter.decode v with
    | error e => rw [hd] at hg; cases hg
    | ok f' => rw [hd] at hg; exact hg
  rw [Site.dateFilter, hg']
  show (if (if t.op = .within then g.mode.isRolling else g.mode.isDay) = true then Except.ok g
    else .error _) = .ok f
  simp only [within_iff hop]
  by_cases hmode : (if s.op = .within then g.mode.isRolling else g.mode.isDay) = true
  · rw [if_pos hmode] at h ⊢
    exact h
  · rw [if_neg hmode] at h
    cases h

theorem dateRange_ok (hclock : t.clock = s.clock) {β : Type} {f : DateRange → β} {b : β}
    (h : (s.dateRange v).map f = .ok b) : (t.dateRange v).map f = .ok b := by
  obtain ⟨r, hr, rfl⟩ := ok_of_map h
  obtain ⟨g, hg, hr⟩ := ok_of_bind hr
  have hr' : t.dateRange v = .ok r := by
    rw [Site.dateRange, dateFilter_ok hop hg, hclock]
    show (g.resolve s.clock.zone s.clock.now).mapError _ = .ok r
    cases hres : g.resolve s.clock.zone s.clock.now with
    | error e => rw [hres] at hr; cases hr
    | ok r' => rw [hres] at hr; exact hr
  rw [hr']
  rfl

theorem readNumber?_ok {q : Criterion n} (h : readNumber? s v = some (.ok q)) :
    readNumber? t v = some (.ok q) := by
  cases hc : s.op.canonical <;> simp only [readNumber?, hop, hc, reduceCtorEq] at h ⊢ <;>
    first | exact h | exact congrArg some (operand_ok t (Option.some.inj h))

theorem readDatetime?_ok (hclock : t.clock = s.clock) {q : Criterion n}
    (h : readDatetime? s v = some (.ok q)) : readDatetime? t v = some (.ok q) := by
  cases hc : s.op.canonical <;> simp only [readDatetime?, hop, hc, reduceCtorEq] at h ⊢ <;>
    first | exact h | exact congrArg some (dateRange_ok hop hclock (Option.some.inj h))

theorem readText?_ok {q : Criterion n} (h : readText? s v = some (.ok q)) :
    readText? t v = some (.ok q) := by
  cases hc : s.op.canonical <;> simp only [readText?, hop, hc, reduceCtorEq] at h ⊢ <;>
    first | exact h | exact congrArg some (operand_ok t (Option.some.inj h))

theorem readTexts?_ok {q : Criterion .multi} (h : readTexts? s v = some (.ok q)) :
    readTexts? t v = some (.ok q) := by
  cases hc : s.op.canonical <;> simp only [readTexts?, hop, hc] at h ⊢ <;>
    first | exact readText?_ok hop h | exact congrArg some (operand_ok t (Option.some.inj h))

/-- A date word is read as the operator it stands for. -/
theorem read?_ok (hclock : t.clock = s.clock) {kind : CellKind} {q : Criterion n}
    (h : read? kind n s v = some (.ok q)) : read? kind n t v = some (.ok q) := by
  cases kind with
  | boolean =>
    rw [read?, readBoolean?, hop]
    exact h
  | number => exact readNumber?_ok hop h
  | datetime => exact readDatetime?_ok hop hclock h
  | text | structured =>
    cases n with
    | single => exact readText?_ok hop h
    | multi => exact readTexts?_ok hop h

end

end Criterion

/-! ## Conditions spelt otherwise -/

/-- A condition with its operator spelt otherwise: what stands for it now means an operator that is
legal for the column and asks for the same. -/
inductive Condition.Respelt (schema : Schema) (q : Condition) : Condition → Prop
  | same : Respelt schema q q
  | spelt {s : String} {isSymbol : Bool} {column : Column} {op op' : Operator}
    (hs : schema q.columnId = some column) (hop : op.IsWritten column.kind q.operator q.isSymbol)
    (hop' : op'.IsWritten column.kind s isSymbol) (hsame : op'.canonical = op.canonical)
    (hlegal : op' ∈ column.legalOperators) :
    Respelt schema q { q with operator := s, isSymbol }

namespace Condition

variable {schema : Schema} {q q' : Condition}

/-- The condition with another operator text. -/
def spelt (q : Condition) (s : String) (isSymbol : Bool) : Condition :=
  { q with operator := s, isSymbol }

theorem withActor_spelt (q : Condition) (s : String) (isSymbol : Bool) (column : Column)
    (placeholder : String) (actor : Option String) :
    (q.spelt s isSymbol).withActor column placeholder actor
      = (q.withActor column placeholder actor).map (·.spelt s isSymbol) := by
  unfold withActor
  show (if column.options.actorReference && q.value.mentions placeholder then _ else _) = _
  split
  · cases actor <;> rfl
  · rfl

variable {column : Column} {op op' : Operator} {s : String} {isSymbol : Bool}

theorem isVacuous_spelt (hop : q.operator? column.kind = some op)
    (hop' : (q.spelt s isSymbol).operator? column.kind = some op')
    (hsame : op'.canonical = op.canonical) :
    (q.spelt s isSymbol).isVacuous column = q.isVacuous column := by
  have hpresence : op'.isPresenceCheck = op.isPresenceCheck := by
    rw [← op'.isPresenceCheck_canonical, hsame, op.isPresenceCheck_canonical]
  have hasks : (q.spelt s isSymbol).asksPresence column = q.asksPresence column := by
    rw [asksPresence, asksPresence, hop, hop']
    exact hpresence
  rw [isVacuous, isVacuous, hasks]
  rfl

/-- A condition with its operator spelt otherwise is prepared alike. -/
theorem prepare_spelt (hs : schema q.columnId = some column)
    (hop : q.operator? column.kind = some op)
    (hop' : (q.spelt s isSymbol).operator? column.kind = some op')
    (hsame : op'.canonical = op.canonical) (placeholder : String) (actor : Option String) :
    (q.spelt s isSymbol).prepare schema placeholder actor
      = (q.prepare schema placeholder actor).map (·.map (·.spelt s isSymbol)) := by
  have hs' : schema (q.spelt s isSymbol).columnId = some column := hs
  rw [prepare, prepare, hs, hs']
  simp only [withActor_spelt]
  cases hw : q.withActor column placeholder actor with
  | error e => rfl
  | ok w =>
    have hw' : (q.spelt s isSymbol).withActor column placeholder actor = .ok (w.spelt s isSymbol) := by
      rw [withActor_spelt, hw]
      rfl
    have hvacuous : (w.spelt s isSymbol).isVacuous column = w.isVacuous column := by
      rw [isVacuous_withActor hw', isVacuous_withActor hw, isVacuous_spelt hop hop' hsame]
    show Except.ok (if (w.spelt s isSymbol).isVacuous column = true then none
      else some (w.spelt s isSymbol)) = Except.ok ((if w.isVacuous column = true then none
      else some w).map _)
    rw [hvacuous]
    cases w.isVacuous column <;> rfl

/-- An operator that a column takes is resolved whatever it is spelt like. -/
theorem resolve_of_operator? (hop : q.operator? column.kind = some op)
    (hlegal : op ∈ column.legalOperators) : q.resolve column = .ok op := by
  rw [resolve, hop]
  exact if_pos hlegal

end Condition

namespace Compiler

variable {c : Compiler} {schema : Schema} {ctx : Context} {q q' : Condition}

/-- What a column requires does not depend on the spelling of the operator. -/
theorem requirement_ok_of_canonical {now : Instant} {column : Column} {op op' : Operator}
    {r : Requirement} (hs : schema q.columnId = some column) (hid : q'.columnId = q.columnId)
    (hvalue : q'.value = q.value) (hop : q.operator? column.kind = some op)
    (hop' : q'.operator? column.kind = some op') (hsame : op'.canonical = op.canonical)
    (hlegal : op' ∈ column.legalOperators) (h : c.requirement schema now q = .ok r) :
    c.requirement schema now q' = .ok r := by
  rw [c.requirement_of_schema schema hs] at h
  obtain ⟨op₁, hres, h⟩ := ok_of_bind h
  obtain ⟨_, hcheck, h⟩ := ok_of_bind h
  obtain ⟨zone, hzone, h⟩ := ok_of_bind h
  cases hop.symm.trans (mem_legalOperators_of_resolve hres).1
  rw [c.requirement_of_schema schema (hid ▸ hs), hvalue,
    Condition.resolve_of_operator? hop' hlegal]
  have htakes : op'.takesDateFilter = op.takesDateFilter := by
    rw [← op'.takesDateFilter_canonical, hsame, op.takesDateFilter_canonical]
  have hcheck' : c.dateCheck now column op' q.value = .ok () := by
    unfold dateCheck at hcheck ⊢
    rw [htakes]
    split at hcheck
    · rw [if_pos ‹_›]
      obtain ⟨f, hf, -⟩ := ok_of_map hcheck
      rw [Criterion.dateFilter_ok (t := ⟨column.id, op', ⟨c.defaultZone, now⟩⟩) hsame hf]
      rfl
    · exact if_neg ‹_›
  show (c.dateCheck now column op' q.value >>= _) = _
  rw [hcheck']
  show (c.zone column >>= _) = _
  rw [hzone]
  cases hread : Criterion.read? column.kind column.cardinality ⟨column.id, op, ⟨zone, now⟩⟩ q.value with
  | none => rw [hread] at h; cases h
  | some x =>
    rw [hread] at h
    obtain ⟨criterion, rfl, hr⟩ := ok_of_map h
    have hread' := Criterion.read?_ok (s := ⟨column.id, op, ⟨zone, now⟩⟩)
      (t := ⟨column.id, op', ⟨zone, now⟩⟩) hsame rfl hread
    simp only [bind, Except.bind, hread']
    exact congrArg Except.ok hr

/-- What is left of a condition alone and what it requires. -/
theorem requirements_leaf (q : Condition) :
    c.requirements schema ctx (.leaf q) = (do
      match ← q.prepare schema c.actorPlaceholder ctx.actor with
      | none => return none
      | some q => (c.requirement schema ctx.now q).map fun r => some (.leaf r)) := by
  rw [requirements, Filter.prepare, Tree.prune]
  cases q.prepare schema c.actorPlaceholder ctx.actor with
  | error e => rfl
  | ok x =>
    cases x with
    | none => rfl
    | some p =>
      show ((c.requirement schema ctx.now p).map Tree.leaf).map some = (c.requirement schema ctx.now p).map _
      rw [map_map]
      rfl

theorem requirements_leaf_of_respelt (hq : q.Respelt schema q') {o : Option (Tree Requirement)}
    (h : c.requirements schema ctx (.leaf q) = .ok o) :
    c.requirements schema ctx (.leaf q') = .ok o := by
  cases hq with
  | same => exact h
  | @spelt s isSymbol column op op' hs hop hop' hsame hlegal =>
    have hop := Condition.operator?_eq_some_iff.mpr hop
    have hop' : (q.spelt s isSymbol).operator? column.kind = some op' :=
      Condition.operator?_eq_some_iff.mpr hop'
    rw [requirements_leaf] at h
    obtain ⟨x, hx, h⟩ := ok_of_bind h
    have hprep := Condition.prepare_spelt hs hop hop' hsame c.actorPlaceholder ctx.actor
    show c.requirements schema ctx (.leaf (q.spelt s isSymbol)) = .ok o
    rw [requirements_leaf, hprep, hx]
    cases x with
    | none => exact h
    | some p =>
      obtain ⟨r, hr, rfl⟩ := ok_of_map h
      obtain ⟨hid, hoperator, hsymbol⟩ := Condition.prepare_ok hx
      have hp : p.operator? column.kind = some op := by
        rw [← hop, Condition.operator?, Condition.operator?, hoperator, hsymbol]
      have hr' : c.requirement schema ctx.now (p.spelt s isSymbol) = .ok r :=
        requirement_ok_of_canonical (q := p) (hid ▸ hs) rfl rfl hp hop' hsame hlegal hr
      show (c.requirement schema ctx.now (p.spelt s isSymbol)).map _ = _
      rw [hr']
      rfl

/-! ## Filters with operators spelt otherwise -/

theorem exists_forall₂ {α β : Type} {R : α → β → Prop} {as : List α} (h : ∀ a ∈ as, ∃ b, R a b) :
    ∃ bs, List.Forall₂ R as bs := by
  induction as with
  | nil => exact ⟨[], .nil⟩
  | cons a as ih =>
    obtain ⟨⟨b, hb⟩, has⟩ := List.forall_mem_cons.mp h
    obtain ⟨bs, hbs⟩ := ih has
    exact ⟨b :: bs, .cons hb hbs⟩

/-- What a group requires is what its children do, each of which is not refused. -/
theorem exists_requirements_of_group {conj : Conjunction} {fs : List Filter}
    {o : Option (Tree Requirement)} (h : c.requirements schema ctx (.group conj fs) = .ok o) :
    ∃ os, List.Forall₂ (fun f o => c.requirements schema ctx f = .ok o) fs os
      ∧ o = Tree.grouped conj (os.flatMap Option.toList) := by
  have hnone : ∀ q ∈ Tree.leavesOf fs, c.conditionFault? schema ctx q = none := by
    have hfault := fault?_requirements c schema ctx (.group conj fs)
    rw [h] at hfault
    exact List.filterMap_eq_nil_iff.mp (FilterError.foremost_eq_none_iff.mp hfault.symm)
  have hchild : ∀ f ∈ fs, ∃ o, c.requirements schema ctx f = .ok o := by
    intro f hf
    have hleaves : f.leaves.filterMap (c.conditionFault? schema ctx) = [] :=
      List.filterMap_eq_nil_iff.mpr fun q hq => hnone q (Tree.leaves_subset_leavesOf hf hq)
    rw [← fault?_eq_none, fault?_requirements, hleaves]
    rfl
  obtain ⟨os, hos⟩ := exists_forall₂ hchild
  exact ⟨os, hos, Except.ok.inj (h.symm.trans (requirements_group conj hos))⟩

mutual

/-- Filters of one shape require the same if conditions in the same places do. -/
theorem requirements_congr (w : Tree (Condition × Condition))
    (hw : ∀ p ∈ w.leaves, ∀ o, c.requirements schema ctx (.leaf p.1) = .ok o →
      c.requirements schema ctx (.leaf p.2) = .ok o)
    {o : Option (Tree Requirement)} (h : c.requirements schema ctx (w.map Prod.fst) = .ok o) :
    c.requirements schema ctx (w.map Prod.snd) = .ok o := by
  cases w with
  | leaf p => exact hw p (List.mem_singleton.mpr rfl) o h
  | group conj ws =>
    obtain ⟨os, hos, rfl⟩ := exists_requirements_of_group h
    exact requirements_group conj (forall₂_requirements_congr ws hw hos)

theorem forall₂_requirements_congr (ws : List (Tree (Condition × Condition)))
    (hws : ∀ p ∈ Tree.leavesOf ws, ∀ o, c.requirements schema ctx (.leaf p.1) = .ok o →
      c.requirements schema ctx (.leaf p.2) = .ok o) {os : List (Option (Tree Requirement))}
    (h : List.Forall₂ (fun f o => c.requirements schema ctx f = .ok o)
      (Tree.mapOf Prod.fst ws) os) :
    List.Forall₂ (fun f o => c.requirements schema ctx f = .ok o) (Tree.mapOf Prod.snd ws) os := by
  cases ws with
  | nil => exact h
  | cons w ws =>
    cases h with
    | cons ho hos =>
      obtain ⟨hw, hws⟩ := List.forall_mem_append.mp hws
      exact .cons (requirements_congr w hw ho) (forall₂_requirements_congr ws hws hos)

end

end Compiler

/-- Filters of one shape with related conditions in the same places are one filter of pairs. -/
theorem Filter.exists_pairs {R : Condition → Condition → Prop} {f f' : Filter}
    (hshape : Tree.shape f = Tree.shape f') (h : List.Forall₂ R f.leaves f'.leaves) :
    ∃ w : Tree (Condition × Condition), w.map Prod.fst = f ∧ w.map Prod.snd = f'
      ∧ ∀ p ∈ w.leaves, R p.1 p.2 := by
  obtain ⟨w, rfl, rfl⟩ := Tree.exists_zip f f' hshape
  refine ⟨w, rfl, rfl, ?_⟩
  rw [Tree.leaves_map, Tree.leaves_map, List.forall₂_map_left_iff, List.forall₂_map_right_iff,
    List.forall₂_same] at h
  exact h

theorem Condition.isKept_of_respelt {schema : Schema} {placeholder : String}
    {actor : Option String} {q q' : Condition} (h : q.Respelt schema q') :
    q'.isKept schema placeholder actor = q.isKept schema placeholder actor := by
  cases h with
  | same => rfl
  | @spelt s isSymbol column op op' hs hop hop' hsame _ =>
    have hop := Condition.operator?_eq_some_iff.mpr hop
    have hop' : (q.spelt s isSymbol).operator? column.kind = some op' :=
      Condition.operator?_eq_some_iff.mpr hop'
    show (q.spelt s isSymbol).isKept schema placeholder actor = _
    rw [isKept, isKept, prepare_spelt hs hop hop' hsame]
    rcases q.prepare schema placeholder actor with e | (_ | p) <;> rfl

/-- However the operators of a filter are spelt, it has the same predicate, or none, and the same
conditions of it are dropped. A condition that is to be spelt otherwise stands on a column that
there is, and means an operator; what is written for it instead means one that is legal for the
column, and is the same once date words are replaced by the operators they stand for. -/
theorem predicate_eq_of_respelt (c : Compiler) (schema : Schema) (ctx : Context) (k : Nat)
    {f f' : Filter} {o : Option CompiledPredicate} (hshape : Tree.shape f = Tree.shape f')
    (hq : List.Forall₂ (Condition.Respelt schema) f.leaves f'.leaves)
    (h : c.predicate schema ctx k f = .ok o) :
    c.predicate schema ctx k f' = .ok o
      ∧ f'.leaves.map (Condition.isKept schema c.actorPlaceholder ctx.actor)
        = f.leaves.map (Condition.isKept schema c.actorPlaceholder ctx.actor) := by
  obtain ⟨w, rfl, rfl, hw⟩ := Filter.exists_pairs hshape hq
  constructor
  · rw [c.predicate_eq] at h ⊢
    obtain ⟨rs, hrs, hout⟩ := ok_of_map h
    have hrs' : c.requirements schema ctx (w.map Prod.snd) = .ok rs :=
      Compiler.requirements_congr w
        (fun p hp _ => Compiler.requirements_leaf_of_respelt (hw p hp)) hrs
    rw [hrs', ← hout]
    rfl
  · rw [Tree.leaves_map, Tree.leaves_map, List.map_map, List.map_map]
    exact List.map_congr_left fun p hp => Condition.isKept_of_respelt (hw p hp)

/-- Tasks with a due date and tags. -/
def tasks : Schema :=
  Schema.ofList [{ id := "due", dbName := "due", semanticType := .datetime },
    { id := "tags", dbName := "tags", semanticType := .text, isMultiValued := true }]

/-- Tasks that are due before a day and have none of two tags. The last condition is dropped. -/
def dueUntagged (before noneOf allOf : String) (symbols : Bool) : Filter :=
  .group .and [
    .leaf { columnId := "due", operator := before, value := .str "2024-01-02", isSymbol := symbols },
    .leaf { columnId := "tags", operator := noneOf, value := .arr [.str "red", .str "blue"],
            isSymbol := symbols },
    .leaf { columnId := "tags", operator := allOf, value := .arr [], isSymbol := symbols }]

/-- Operators by their names, the ordering by itself, and by symbols, the ordering as a date word. -/
theorem predicate_eq_of_respelt_dueUntagged :
    let c := Compiler.mk .sqlite .bundled .utc "me" none
    let ctx : Context := ⟨none, ⟨0, 0⟩⟩
    let f := dueUntagged " lessThan\t" "noneOf" "\u00a0allOf" false
    let f' := dueUntagged "<" "\u3000nOt  In " "has\n" true
    ∃ o, c.predicate tasks ctx 0 f = .ok (some o) ∧ c.predicate tasks ctx 0 f' = .ok (some o)
      ∧ f'.leaves.map (Condition.isKept tasks c.actorPlaceholder ctx.actor) = [true, true, false] := by
  intro c ctx f f'
  obtain ⟨o, ho⟩ : ∃ o, c.predicate tasks ctx 0 f = .ok (some o) := ⟨_, rfl⟩
  have written {q : Condition} {kind : CellKind} {op : Operator}
      (h : q.operator? kind = some op) := Condition.operator?_eq_some_iff.mp h
  have hless : (Condition.mk "due" " lessThan\t" .null false).operator? .datetime
      = some .lessThan := rfl
  have hnone' : (Condition.mk "tags" "noneOf" .null false).operator? .text = some .noneOf := rfl
  have hall' : (Condition.mk "tags" "\u00a0allOf" .null false).operator? .text = some .allOf := rfl
  have hbefore : (Condition.mk "due" "<" .null true).operator? .datetime = some .before := by
    decide +kernel
  have hnone : (Condition.mk "tags" "\u3000nOt  In " .null true).operator? .text = some .noneOf := by
    decide +kernel
  have hall : (Condition.mk "tags" "has\n" .null true).operator? .text = some .allOf := by
    decide +kernel
  have hq : List.Forall₂ (Condition.Respelt tasks) f.leaves f'.leaves :=
    .cons (.spelt rfl (written hless) (written hbefore) rfl (by decide))
      (.cons (.spelt rfl (written hnone') (written hnone) rfl (by decide))
        (.cons (.spelt rfl (written hall') (written hall) rfl (by decide)) .nil))
  have hshape : Tree.shape f = Tree.shape f' := rfl
  obtain ⟨hsame, hkept⟩ := predicate_eq_of_respelt c tasks ctx 0 hshape hq ho
  exact ⟨o, ho, hsame, hkept.trans rfl⟩

end RowFilter
