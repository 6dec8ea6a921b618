import RowFilter.Proofs.Nesting
import RowFilter.Proofs.Preparation
import RowFilter.Proofs.Truth
/-!
# Reading conjunctions

How SQL reads operands that are joined by AND and OR: parentheses first, then AND, then OR.
The reader goes from left to right with a level for each parenthesis that is open. Operands are
handed to it as texts it does not look into; `lexemes?` finds them among the tokens.

Results:
* `parse?_lexemes`: a tree that is written down is read back, but that a group of one child is
  read as the child.
* `value_collapse`: that makes no difference to the value.
* `lexemes?_spelledAll`: operands that are self-contained are found where they were written.
* `evaluate?_spelledAll`: a text has the value of the trees it was written from.
-/
namespace RowFilter

open Sql

variable {α : Type}

/-! ## Lexemes -/

namespace Sql

/-- What conjunctions are written with. -/
inductive Lexeme (α : Type)
  | operand (a : α)
  | opening
  | closing
  | joint (c : Conjunction)

namespace Lexeme

/-- The lexeme that a token is outside of operands. -/
def ofToken? (t : Token) : Option (Lexeme α) :=
  if t = .symbol '(' then some .opening
  else if t = .symbol ')' then some .closing
  else
    match t.keyword? with
    | some .and => some (.joint .and)
    | some .or => some (.joint .or)
    | _ => none

/-- The tokens of a lexeme, if operands are tokens. -/
def tokens : Lexeme (List Token) → List Token
  | operand f => f
  | opening => [.symbol '(']
  | closing => [.symbol ')']
  | joint .and => [.word "AND"]
  | joint .or => [.word "OR"]

end Lexeme

/-- Lexemes as they stand in a text. -/
def spell (ps : List (Lexeme (List Token))) : List Token := ps.flatMap Lexeme.tokens

theorem spell_append (ps qs : List (Lexeme (List Token))) : spell (ps ++ qs) = spell ps ++ spell qs :=
  List.flatMap_append

theorem spell_cons (p : Lexeme (List Token)) (ps : List (Lexeme (List Token))) :
    spell (p :: ps) = p.tokens ++ spell ps := List.flatMap_cons

end Sql

/-! ## Writing trees -/

namespace Tree

mutual

/-- A tree as it is written down, every group in parentheses. -/
def lexemes : Tree α → List (Lexeme α)
  | leaf a => [.operand a]
  | group c ts => .opening :: ([.joint c].intercalate (lexemesOf ts) ++ [.closing])

def lexemesOf : List (Tree α) → List (List (Lexeme α))
  | [] => []
  | t :: ts => lexemes t :: lexemesOf ts

end

/-- Trees as they are written down with a conjunction between them. -/
def joined (c : Conjunction) (ts : List (Tree α)) : List (Lexeme α) :=
  [.joint c].intercalate (lexemesOf ts)

theorem joined_singleton (c : Conjunction) (t : Tree α) : joined c [t] = t.lexemes :=
  List.intercalate_singleton

theorem joined_cons_cons (c : Conjunction) (t u : Tree α) (us : List (Tree α)) :
    joined c (t :: u :: us) = t.lexemes ++ .joint c :: joined c (u :: us) := by
  rw [joined, lexemesOf, lexemesOf, List.intercalate_cons_cons, List.append_assoc]
  rfl

mutual

/-- The tree with every group of one child replaced by the child. -/
def collapse : Tree α → Tree α
  | leaf a => leaf a
  | group c ts => join c (collapseAll ts)

def collapseAll : List (Tree α) → List (Tree α)
  | [] => []
  | t :: ts => collapse t :: collapseAll ts

end

mutual

/-- A group of one child has its value. -/
theorem value_collapse (t : Tree Truth) : t.collapse.value = t.value := by
  cases t with
  | leaf v => rfl
  | group c ts => rw [collapse, value_join, ← values_eq_map, values_collapseAll ts, value]

theorem values_collapseAll (ts : List (Tree Truth)) : values (collapseAll ts) = values ts := by
  cases ts with
  | nil => rfl
  | cons t ts => rw [collapseAll, values, values, value_collapse t, values_collapseAll ts]

end

end Tree

/-! ## Reading lexemes -/

namespace Sql

/-- What was read since the last parenthesis was opened. -/
structure Level (α : Type) where
  /-- The operands of OR that are complete. -/
  alternatives : List (Tree α)
  /-- The operands of AND in the one at hand. -/
  conjuncts : List (Tree α)

namespace Level

def empty : Level α := ⟨[], []⟩

def add (l : Level α) (t : Tree α) : Level α := { l with conjuncts := l.conjuncts ++ [t] }

/-- Completes the operand of OR at hand. -/
def turn (l : Level α) : Level α := ⟨l.alternatives ++ [Tree.join .and l.conjuncts], []⟩

/-- The tree of all that was read. -/
def tree (l : Level α) : Tree α := Tree.join .or l.turn.alternatives

end Level

/-- Where a reader is. -/
structure Reader (α : Type) where
  /-- Whether an operand has to come next. -/
  due : Bool
  level : Level α
  /-- The levels around that of the last parenthesis, the inner ones first. -/
  outer : List (Level α)

namespace Reader

/-- Reads a lexeme, if it can stand here. -/
def step (r : Reader α) : Lexeme α → Option (Reader α)
  | .operand a => if r.due then some ⟨false, r.level.add (.leaf a), r.outer⟩ else none
  | .opening => if r.due then some ⟨true, .empty, r.level :: r.outer⟩ else none
  | .closing =>
    if r.due then none
    else
      match r.outer with
      | [] => none
      | l :: ls => some ⟨false, l.add r.level.tree, ls⟩
  | .joint .and => if r.due then none else some { r with due := true }
  | .joint .or => if r.due then none else some { r with due := true, level := r.level.turn }

def run (r : Reader α) (ps : List (Lexeme α)) : Option (Reader α) := ps.foldlM step r

theorem run_append (r : Reader α) (ps qs : List (Lexeme α)) :
    r.run (ps ++ qs) = (r.run ps).bind fun r' => r'.run qs := List.foldlM_append

theorem run_cons (r : Reader α) (p : Lexeme α) (ps : List (Lexeme α)) :
    r.run (p :: ps) = (r.step p).bind fun r' => r'.run ps := List.foldlM_cons

end Reader

/-- The tree that lexemes stand for. None if they are not a text of its own. -/
def parse? (ps : List (Lexeme α)) : Option (Tree α) :=
  (Reader.run ⟨true, .empty, []⟩ ps).bind fun r =>
    if r.due ∨ r.outer ≠ [] then none else some r.level.tree

end Sql

namespace Tree

/-- A tree that is read where an operand is due is one operand of AND more. -/
def ReadsBack (t : Tree α) : Prop :=
  ∀ l ls, Reader.run ⟨true, l, ls⟩ t.lexemes = some ⟨false, l.add t.collapse, ls⟩

/-- Trees joined by AND are added to the operands of AND. -/
theorem run_joined_and {ts : List (Tree α)} (h : ∀ t ∈ ts, t.ReadsBack) (hne : ts ≠ [])
    (l : Level α) (ls : List (Level α)) :
    Reader.run ⟨true, l, ls⟩ (joined .and ts)
      = some ⟨false, { l with conjuncts := l.conjuncts ++ collapseAll ts }, ls⟩ := by
  induction ts generalizing l with
  | nil => exact absurd rfl hne
  | cons t ts ih =>
    have ht := h t List.mem_cons_self
    cases ts with
    | nil => rw [joined_singleton, ht]; rfl
    | cons u us =>
      rw [joined_cons_cons, Reader.run_append, ht, Option.bind_some, Reader.run_cons]
      show Reader.run ⟨true, l.add t.collapse, ls⟩ (joined .and (u :: us)) = _
      rw [ih (fun t ht => h t (List.mem_cons_of_mem _ ht)) (List.cons_ne_nil u us), Level.add,
        List.append_assoc]
      rfl

/-- Trees joined by OR are the operands of OR after those that were complete. -/
theorem run_joined_or {ts : List (Tree α)} (h : ∀ t ∈ ts, t.ReadsBack) (hne : ts ≠ [])
    (as : List (Tree α)) (ls : List (Level α)) :
    ∃ l, Reader.run ⟨true, ⟨as, []⟩, ls⟩ (joined .or ts) = some ⟨false, l, ls⟩
      ∧ l.turn.alternatives = as ++ collapseAll ts := by
  induction ts generalizing as with
  | nil => exact absurd rfl hne
  | cons t ts ih =>
    have ht := h t List.mem_cons_self
    cases ts with
    | nil =>
      refine ⟨⟨as, [t.collapse]⟩, ?_, rfl⟩
      rw [joined_singleton, ht]
      rfl
    | cons u us =>
      obtain ⟨l, hl, htree⟩ := ih (fun t ht => h t (List.mem_cons_of_mem _ ht))
        (List.cons_ne_nil u us) (as ++ [t.collapse])
      refine ⟨l, ?_, ?_⟩
      · rw [joined_cons_cons, Reader.run_append, ht, Option.bind_some, Reader.run_cons]
        exact hl
      · rw [htree, List.append_assoc]
        rfl

/-- At a level of their own trees are read as the tree that joins them. -/
theorem run_joined {ts : List (Tree α)} (h : ∀ t ∈ ts, t.ReadsBack) (hne : ts ≠ [])
    (c : Conjunction) (ls : List (Level α)) :
    ∃ l, Reader.run ⟨true, .empty, ls⟩ (joined c ts) = some ⟨false, l, ls⟩
      ∧ l.tree = join c (collapseAll ts) := by
  -- AND adds to the operand of OR at hand, OR completes it: the level grows in different places
  cases c with
  | and => exact ⟨_, run_joined_and h hne .empty ls, rfl⟩
  | or =>
    obtain ⟨l, hl, htree⟩ := run_joined_or h hne [] ls
    exact ⟨l, hl, congrArg (join .or) htree⟩

mutual

theorem readsBack_of_pruned (t : Tree α) (hp : t.Pruned) : t.ReadsBack := by
  intro l ls
  cases t with
  | leaf a => rfl
  | group c ts =>
    obtain ⟨l', hl', htree⟩ := run_joined (readsBack_of_allPruned ts hp.2) hp.1 c (l :: ls)
    rw [lexemes, Reader.run_cons]
    show Reader.run ⟨true, .empty, l :: ls⟩ (joined c ts ++ [.closing]) = _
    rw [Reader.run_append, hl', collapse, ← htree]
    rfl

theorem readsBack_of_allPruned (ts : List (Tree α)) (hp : AllPruned ts) :
    ∀ t ∈ ts, t.ReadsBack := by
  cases ts with
  | nil => exact fun t ht => absurd ht List.not_mem_nil
  | cons u us =>
    have hu := readsBack_of_pruned u hp.1
    have hus := readsBack_of_allPruned us hp.2
    intro t ht
    rcases List.mem_cons.mp ht with rfl | ht
    · exact hu
    · exact hus t ht

end

/-- Trees written down with a conjunction between them are read back as the tree that joins
them. -/
theorem parse?_joined (c : Conjunction) {ts : List (Tree α)} (hp : AllPruned ts) (hne : ts ≠ []) :
    parse? (joined c ts) = some (join c (collapseAll ts)) := by
  obtain ⟨l, hl, htree⟩ := run_joined (readsBack_of_allPruned ts hp) hne c []
  rw [parse?, hl, ← htree]
  rfl

/-- A tree that is written down is read back, but that a group of one child is read as the
child. -/
theorem parse?_lexemes {t : Tree α} (hp : t.Pruned) : parse? t.lexemes = some t.collapse := by
  rw [← joined_singleton .and t]
  exact parse?_joined .and ⟨hp, trivial⟩ (List.cons_ne_nil t [])

end Tree

/-! ## Finding operands -/

namespace Sql

/-- Reads tokens as lexemes. Where the next of the fragments stands, it is one operand; what
comes with it is what the operand is read as. -/
def lexemes? (fs : List (List Token × α)) (ts : List Token) : Option (List (Lexeme α)) :=
  match fs, ts with
  | [], [] => some []
  | [], t :: ts => (Lexeme.ofToken? t).bind fun p => (lexemes? [] ts).map (p :: ·)
  | (f, a) :: fs, ts =>
    if f <+: ts then (lexemes? fs (ts.drop f.length)).map (.operand a :: ·)
    else
      match ts with
      | [] => none
      | t :: ts => (Lexeme.ofToken? t).bind fun p => (lexemes? ((f, a) :: fs) ts).map (p :: ·)
termination_by fs.length + ts.length
decreasing_by all_goals simp only [List.length_cons, List.length_drop]; omega

theorem lexemes?_nil : lexemes? ([] : List (List Token × α)) [] = some [] := by rw [lexemes?]

theorem lexemes?_operand (f : List Token) (a : α) (fs : List (List Token × α)) (ts : List Token) :
    lexemes? ((f, a) :: fs) (f ++ ts) = (lexemes? fs ts).map (.operand a :: ·) := by
  rw [lexemes?.eq_def]
  simp only [List.prefix_append, if_true, List.drop_left]

/-- Where no operand stands, a token is a lexeme by itself. -/
theorem lexemes?_cons {fs : List (List Token × α)} {t : Token} {ts : List Token} {p : Lexeme α}
    (ht : Lexeme.ofToken? t = some p) (h : ∀ f ∈ fs.head?, ¬ f.1 <+: t :: ts) :
    lexemes? fs (t :: ts) = (lexemes? fs ts).map (p :: ·) := by
  cases fs with
  | nil => rw [lexemes?, ht, Option.bind_some]
  | cons f fs =>
    obtain ⟨f, a⟩ := f
    rw [lexemes?, if_neg (h (f, a) rfl), ht, Option.bind_some]

/-! ### Operands -/

/-- Tokens that are an operand wherever they stand. -/
def IsOperand (f : List Token) : Prop := f ≠ [] ∧ SelfContained f

theorem walk_replicate_opening (d n : Nat) :
    Nesting.walk ⟨d, false⟩ (List.replicate n (.symbol '(')) = some ⟨d + n, false⟩ := by
  induction n generalizing d with
  | zero => rfl
  | succ n ih =>
    rw [List.replicate_succ, Nesting.walk_cons]
    show Nesting.walk ⟨d + 1, false⟩ _ = _
    rw [ih, Nat.add_assoc, Nat.add_comm 1 n]

theorem eq_openings_or (f : List Token) :
    (∃ n, f = List.replicate n (.symbol '('))
      ∨ ∃ n x g, f = List.replicate n (.symbol '(') ++ x :: g ∧ x ≠ .symbol '(' := by
  induction f with
  | nil => exact .inl ⟨0, rfl⟩
  | cons t f ih =>
    by_cases ht : t = .symbol '('
    · subst ht
      rcases ih with ⟨n, rfl⟩ | ⟨n, x, g, rfl, hx⟩
      · exact .inl ⟨n + 1, rfl⟩
      · exact .inr ⟨n + 1, x, g, rfl, hx⟩
    · exact .inr ⟨0, t, f, rfl, ht⟩

/-- An operand begins with some parentheses and then another token. -/
theorem IsOperand.exists_ne_opening {f : List Token} (h : IsOperand f) :
    ∃ n x g, f = List.replicate n (.symbol '(') ++ x :: g ∧ x ≠ .symbol '(' := by
  rcases eq_openings_or f with ⟨n, rfl⟩ | hx
  · have hwalk : Nesting.walk ⟨0, false⟩ _ = some ⟨0, false⟩ := h.2
    rw [walk_replicate_opening] at hwalk
    have hzero : n = 0 := by simpa using hwalk
    subst hzero
    exact absurd rfl h.1
  · exact hx

/-- An operand is not found among the parentheses before it. -/
theorem IsOperand.not_prefix_opening {f : List Token} (h : IsOperand f) (m : Nat)
    (ts : List Token) :
    ¬ f <+: .symbol '(' :: (List.replicate m (.symbol '(') ++ (f ++ ts)) := by
  -- the first token of `f` that is no parenthesis would stand among the `m + 1 + n` of them
  obtain ⟨n, x, g, hf, hx⟩ := h.exists_ne_opening
  rintro ⟨us, hus⟩
  have hlong : .symbol '(' :: (List.replicate m (.symbol '(') ++ (f ++ ts))
      = List.replicate (m + 1 + n) (.symbol '(') ++ (x :: g ++ ts) := by
    rw [hf, List.replicate_add, List.replicate_succ]
    simp only [List.cons_append, List.append_assoc]
  have hfn : (f ++ us)[n]? = some x := by simp [hf]
  rw [hus, hlong, List.getElem?_append_left (by rw [List.length_replicate]; omega),
    List.getElem?_replicate_of_lt (by omega)] at hfn
  exact hx (Option.some.inj hfn).symm

/-- Nor does it begin with what ends a group or joins it. -/
theorem IsOperand.not_prefix_cons {f : List Token} (h : IsOperand f) {t : Token}
    (ht : t = .symbol ')' ∨ t.keyword? = some .and ∨ t.keyword? = some .or) (ts : List Token) :
    ¬ f <+: t :: ts := by
  rintro ⟨us, hus⟩
  cases f with
  | nil => exact h.1 rfl
  | cons u f =>
    have hu : u = t := (List.cons.inj hus).1
    subst hu
    obtain ⟨m, hm, -⟩ := Option.bind_eq_some_iff.mp ((Nesting.walk_cons _ u f).symm.trans h.2)
    rcases ht with rfl | hk | hk
    · cases hm
    · exact absurd (hm.symm.trans (step_of_and hk)) (by simp)
    · exact absurd (hm.symm.trans (step_of_or hk)) (by simp)

end Sql

namespace Tree

/-- A tree of fragments as it stands in a text. -/
def spelled (t : Tree (List Token × α)) : List Token := spell (t.map Prod.fst).lexemes

/-- Such trees with a conjunction between them. -/
def spelledAll (c : Conjunction) (ts : List (Tree (List Token × α))) : List Token :=
  spell (joined c (mapOf Prod.fst ts))

theorem spelled_leaf (f : List Token × α) : spelled (leaf f) = f.1 := List.append_nil f.1

theorem spelled_group (c : Conjunction) (ts : List (Tree (List Token × α))) :
    spelled (group c ts) = .symbol '(' :: (spelledAll c ts ++ [.symbol ')']) := by
  rw [spelled, map, lexemes, spell_cons, spell_append]
  rfl

theorem spelledAll_cons_cons (c : Conjunction) (t u : Tree (List Token × α))
    (us : List (Tree (List Token × α))) :
    spelledAll c (t :: u :: us)
      = t.spelled ++ (Lexeme.joint c).tokens ++ spelledAll c (u :: us) := by
  rw [spelledAll, mapOf, mapOf, joined_cons_cons, spell_append, spell_cons, ← mapOf,
    List.append_assoc]
  rfl

theorem spelledAll_singleton (c : Conjunction) (t : Tree (List Token × α)) :
    spelledAll c [t] = t.spelled := by
  rw [spelledAll, mapOf, mapOf, joined_singleton, spelled]

mutual

/-- Only parentheses stand before the first fragment of a tree. -/
theorem spelled_eq (t : Tree (List Token × α)) (hp : t.Pruned) :
    ∃ f fs m ts, t.leaves = f :: fs
      ∧ t.spelled = List.replicate m (.symbol '(') ++ (f.1 ++ ts) := by
  cases t with
  | leaf f => exact ⟨f, [], 0, [], rfl, rfl⟩
  | group c ts =>
    obtain ⟨f, fs, m, us, hl, hs⟩ := spelledAll_eq c ts hp.2 hp.1
    refine ⟨f, fs, m + 1, us ++ [.symbol ')'], hl, ?_⟩
    rw [spelled_group, hs, List.replicate_succ, List.cons_append, List.append_assoc,
      List.append_assoc]

theorem spelledAll_eq (c : Conjunction) (ts : List (Tree (List Token × α))) (hp : AllPruned ts)
    (hne : ts ≠ []) :
    ∃ f fs m us, leavesOf ts = f :: fs
      ∧ spelledAll c ts = List.replicate m (.symbol '(') ++ (f.1 ++ us) := by
  cases ts with
  | nil => exact absurd rfl hne
  | cons t ts =>
    obtain ⟨f, fs, m, us, hl, hs⟩ := spelled_eq t hp.1
    cases ts with
    | nil =>
      refine ⟨f, fs, m, us, ?_, ?_⟩
      · rw [leavesOf, leavesOf, List.append_nil, hl]
      · rw [spelledAll_singleton, hs]
    | cons v vs =>
      refine ⟨f, fs ++ leavesOf (v :: vs), m, us ++ (Lexeme.joint c).tokens ++ spelledAll c (v :: vs),
        ?_, ?_⟩
      · rw [leavesOf, hl, List.cons_append]
      · rw [spelledAll_cons_cons, hs]
        simp only [List.append_assoc]

end

/-- A conjunction is read as such where no operand is. -/
theorem lexemes?_joint {fs : List (List Token × α)} (hfs : ∀ f ∈ fs, IsOperand f.1)
    (c : Conjunction) (us : List Token) :
    lexemes? fs ((Lexeme.joint c).tokens ++ us) = (lexemes? fs us).map (.joint c :: ·) := by
  cases c with
  | and =>
    refine lexemes?_cons rfl fun f hf => ?_
    exact (hfs f (List.mem_of_mem_head? hf)).not_prefix_cons (.inr (.inl (by decide))) us
  | or =>
    refine lexemes?_cons rfl fun f hf => ?_
    exact (hfs f (List.mem_of_mem_head? hf)).not_prefix_cons (.inr (.inr (by decide))) us

theorem lexemes?_closing {fs : List (List Token × α)} (hfs : ∀ f ∈ fs, IsOperand f.1)
    (us : List Token) :
    lexemes? fs (.symbol ')' :: us) = (lexemes? fs us).map (.closing :: ·) := by
  refine lexemes?_cons rfl fun f hf => ?_
  exact (hfs f (List.mem_of_mem_head? hf)).not_prefix_cons (.inl rfl) us

mutual

/-- The operands of a tree are found where they were written. -/
theorem lexemes?_spelled (t : Tree (List Token × α)) (hp : t.Pruned)
    (ht : ∀ f ∈ t.leaves, IsOperand f.1) {fs : List (List Token × α)}
    (hfs : ∀ f ∈ fs, IsOperand f.1) (us : List Token) :
    lexemes? (t.leaves ++ fs) (t.spelled ++ us)
      = (lexemes? fs us).map ((t.map Prod.snd).lexemes ++ ·) := by
  cases t with
  | leaf f =>
    rw [spelled_leaf]
    exact lexemes?_operand f.1 f.2 fs us
  | group c ts =>
    -- the next fragment stands after further parentheses, and is not found before it does
    obtain ⟨f, fs', m, vs, hl, hs⟩ := spelledAll_eq c ts hp.2 hp.1
    have hopening : ∀ g ∈ (leavesOf ts ++ fs).head?,
        ¬ g.1 <+: .symbol '(' :: (spelledAll c ts ++ (.symbol ')' :: us)) := by
      intro g hg
      rw [hl] at hg
      cases hg
      have hf : IsOperand f.1 := ht f (by rw [leaves, hl]; exact List.mem_cons_self)
      rw [hs, List.append_assoc, List.append_assoc]
      exact hf.not_prefix_opening m _
    rw [spelled_group, List.cons_append, List.append_assoc, leaves]
    show lexemes? (leavesOf ts ++ fs) (.symbol '(' :: (spelledAll c ts ++ .symbol ')' :: us)) = _
    rw [lexemes?_cons rfl hopening,
      lexemes?_spelledAll c ts hp.2 ht hfs, lexemes?_closing hfs, map, lexemes, Option.map_map,
      Option.map_map]
    refine congrArg (Option.map · _) (funext fun ps => ?_)
    show _ = Lexeme.opening :: ((joined c (mapOf Prod.snd ts) ++ [.closing]) ++ ps)
    rw [List.append_assoc]
    rfl

theorem lexemes?_spelledAll (c : Conjunction) (ts : List (Tree (List Token × α)))
    (hp : AllPruned ts) (ht : ∀ f ∈ leavesOf ts, IsOperand f.1) {fs : List (List Token × α)}
    (hfs : ∀ f ∈ fs, IsOperand f.1) (us : List Token) :
    lexemes? (leavesOf ts ++ fs) (spelledAll c ts ++ us)
      = (lexemes? fs us).map (joined c (mapOf Prod.snd ts) ++ ·) := by
  cases ts with
  | nil => exact (Option.map_id' (x := lexemes? fs us)).symm
  | cons t ts =>
    have hfirst : ∀ f ∈ t.leaves, IsOperand f.1 := fun f hf => ht f (List.mem_append_left _ hf)
    have hrest : ∀ f ∈ leavesOf ts, IsOperand f.1 := fun f hf => ht f (List.mem_append_right _ hf)
    cases ts with
    | nil =>
      rw [leavesOf, leavesOf, List.append_nil, spelledAll_singleton, mapOf, mapOf,
        joined_singleton]
      exact lexemes?_spelled t hp.1 hfirst hfs us
    | cons v vs =>
      have hall : ∀ f ∈ leavesOf (v :: vs) ++ fs, IsOperand f.1 := fun f hf =>
        (List.mem_append.mp hf).elim (hrest f) (hfs f)
      rw [leavesOf, List.append_assoc, spelledAll_cons_cons, List.append_assoc, List.append_assoc,
        lexemes?_spelled t hp.1 hfirst hall, lexemes?_joint hall,
        lexemes?_spelledAll c (v :: vs) hp.2 hrest hfs, Option.map_map, Option.map_map]
      refine congrArg (Option.map · _) (funext fun ps => ?_)
      show _ = joined c (t.map Prod.snd :: v.map Prod.snd :: mapOf Prod.snd vs) ++ ps
      rw [joined_cons_cons]
      simp only [Function.comp_apply, List.append_assoc, List.cons_append, mapOf]

end

end Tree

/-! ## Values of texts -/

namespace Sql

/-- The value of a text whose operands are these fragments with these values. -/
def evaluate? (fs : List (List Token × Truth)) (ts : List Token) : Option Truth :=
  ((lexemes? fs ts).bind parse?).map Tree.value

/-- Trees that are written down with a conjunction between them have the value of their values
under this conjunction. -/
theorem evaluate?_spelledAll (c : Conjunction) {ts : List (Tree (List Token × Truth))}
    (hp : Tree.AllPruned ts) (hne : ts ≠ []) (ht : ∀ f ∈ Tree.leavesOf ts, IsOperand f.1) :
    evaluate? (Tree.leavesOf ts) (Tree.spelledAll c ts)
      = some (c.combine (Tree.values (Tree.mapOf Prod.snd ts))) := by
  have hlexemes : lexemes? (Tree.leavesOf ts) (Tree.spelledAll c ts)
      = some (Tree.joined c (Tree.mapOf Prod.snd ts)) := by
    have hnone : ∀ f ∈ ([] : List (List Token × Truth)), IsOperand f.1 := nofun
    have h := Tree.lexemes?_spelledAll c ts hp ht hnone []
    simpa [lexemes?_nil] using h
  have hne' : Tree.mapOf Prod.snd ts ≠ [] := by
    cases ts with
    | nil => exact absurd rfl hne
    | cons t ts => exact List.cons_ne_nil _ _
  have hparse := Tree.parse?_joined c ((Tree.allPruned_mapOf Prod.snd ts).mpr hp) hne'
  rw [evaluate?, hlexemes, Option.bind_some, hparse, Option.map_some, Tree.value_join,
    ← Tree.values_eq_map, Tree.values_collapseAll]

/-- A tree that is written down has the value of the tree. -/
theorem evaluate?_spelled {t : Tree (List Token × Truth)} (hp : t.Pruned)
    (ht : ∀ f ∈ t.leaves, IsOperand f.1) :
    evaluate? t.leaves t.spelled = some (t.map Prod.snd).value := by
  have hl : Tree.leavesOf [t] = t.leaves := List.append_nil _
  have hall : Tree.AllPruned [t] := ⟨hp, trivial⟩
  have h := evaluate?_spelledAll .and hall (List.cons_ne_nil t []) (hl ▸ ht)
  rw [hl, Tree.spelledAll_singleton, Tree.mapOf, Tree.mapOf, Tree.values, Tree.values,
    Conjunction.combine_singleton] at h
  exact h

end Sql

end RowFilter
