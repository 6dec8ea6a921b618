import RowFilter.Proofs.Tokens
/-!
# Nesting

What a reader must know of a text to take it as one operand of AND: that its parentheses match
and that no conjunction in it stands outside them. The AND of a BETWEEN is not a conjunction.

Results:
* `Leads.deeper`: what is balanced stays so inside parentheses, whatever conjunctions it has.
* `conjuncts?_of_selfContained`: a self-contained text is one operand.
* `conjuncts?_append`: appended with AND it is one more, and leaves the others as they were.
-/
namespace RowFilter.Sql

inductive Keyword
  | and | or | between
  deriving DecidableEq, Repr

/-- The keyword a token is, whatever the case of its letters. -/
def Token.keyword? : Token → Option Keyword
  | .word s =>
    let cs := s.toList.map Char.toUpper
    if cs = ['A', 'N', 'D'] then some .and
    else if cs = ['O', 'R'] then some .or
    else if cs = ['B', 'E', 'T', 'W', 'E', 'E', 'N'] then some .between
    else none
  | _ => none

/-- A token that is neither a parenthesis nor a keyword. -/
def Token.IsStill (t : Token) : Prop :=
  t ≠ .symbol '(' ∧ t ≠ .symbol ')' ∧ t.keyword? = none

theorem isStill_identifier (name : String) : (Token.identifier name).IsStill :=
  ⟨by simp, by simp, rfl⟩

theorem isStill_literal (s : String) : (Token.literal s).IsStill := ⟨by simp, by simp, rfl⟩

theorem isStill_mark (d : Dialect) (k : Nat) : (d.mark k).IsStill := by
  cases d with
  | postgres => exact ⟨by simp [Dialect.mark], by simp [Dialect.mark], rfl⟩
  | sqlite => exact ⟨by simp [Dialect.mark], by simp [Dialect.mark], rfl⟩

/-- Where a reader is: how many parentheses are open, and whether outside of all of them a
BETWEEN waits for its AND. -/
structure Nesting where
  depth : Nat
  between : Bool
  deriving DecidableEq, Repr

namespace Nesting

/-- Outside of all parentheses. -/
def outside : Nesting := ⟨0, false⟩

/-- Reads a token. None if it closes what was not opened or is a conjunction outside of all
parentheses. -/
def step (n : Nesting) (t : Token) : Option Nesting :=
  if t = .symbol '(' then some { n with depth := n.depth + 1 }
  else if t = .symbol ')' then
    match n.depth with
    | 0 => none
    | d + 1 => some { n with depth := d }
  else if n.depth ≠ 0 then some n
  else
    match t.keyword? with
    | none => some n
    | some .between => some { n with between := true }
    | some .and => if n.between then some { n with between := false } else none
    | some .or => none

/-- Reads tokens from left to right. -/
def walk (n : Nesting) (ts : List Token) : Option Nesting := ts.foldlM step n

theorem walk_append (n : Nesting) (ts us : List Token) :
    n.walk (ts ++ us) = (n.walk ts).bind fun m => m.walk us := List.foldlM_append

theorem walk_cons (n : Nesting) (t : Token) (ts : List Token) :
    n.walk (t :: ts) = (n.step t).bind fun m => m.walk ts := List.foldlM_cons

/-- Only parentheses change the depth. -/
theorem depth_of_step {n m : Nesting} {t : Token} (ho : t ≠ .symbol '(') (hc : t ≠ .symbol ')')
    (h : n.step t = some m) : m.depth = n.depth := by
  rw [step, if_neg ho, if_neg hc] at h
  split at h
  · cases h; rfl
  · split at h
    · cases h; rfl
    · cases h; rfl
    · split at h
      · cases h; rfl
      · cases h
    · cases h

theorem step_of_still {t : Token} (h : t.IsStill) (n : Nesting) : n.step t = some n := by
  rw [step, if_neg h.1, if_neg h.2.1, h.2.2]
  split <;> rfl

/-- Inside parentheses only parentheses matter. -/
theorem step_deeper {n m : Nesting} {t : Token} (h : n.step t = some m) (d : Nat) (b : Bool) :
    step ⟨d + 1 + n.depth, b⟩ t = some ⟨d + 1 + m.depth, b⟩ := by
  by_cases ho : t = .symbol '('
  · rw [step, if_pos ho] at h ⊢
    cases h
    rfl
  · by_cases hc : t = .symbol ')'
    · rw [step, if_neg ho, if_pos hc] at h ⊢
      obtain ⟨depth, between⟩ := n
      cases depth with
      | zero => cases h
      | succ e => cases h; rfl
    · rw [depth_of_step ho hc h, step, if_neg ho, if_neg hc, if_pos (by simp)]

theorem walk_deeper {n m : Nesting} {ts : List Token} (h : n.walk ts = some m) (d : Nat) (b : Bool) :
    walk ⟨d + 1 + n.depth, b⟩ ts = some ⟨d + 1 + m.depth, b⟩ := by
  induction ts generalizing n with
  | nil => cases h; rfl
  | cons t ts ih =>
    rw [walk_cons] at h ⊢
    obtain ⟨l, hl, h⟩ := Option.bind_eq_some_iff.mp h
    rw [step_deeper hl d b]
    exact ih h

end Nesting

open Nesting

/-- The tokens lead from one depth to another, with no conjunction outside of all parentheses
but that of a BETWEEN. -/
def Leads (d : Nat) (ts : List Token) (e : Nat) : Prop := walk ⟨d, false⟩ ts = some ⟨e, false⟩

/-- Tokens that can be an operand of AND. -/
def SelfContained (ts : List Token) : Prop := Leads 0 ts 0

instance (ts : List Token) : Decidable (SelfContained ts) :=
  inferInstanceAs (Decidable (walk ⟨0, false⟩ ts = some ⟨0, false⟩))

namespace Leads

variable {c d e : Nat} {ts us : List Token}

theorem nil (d : Nat) : Leads d [] d := rfl

theorem append (ht : Leads c ts d) (hu : Leads d us e) : Leads c (ts ++ us) e := by
  rw [Leads, walk_append, ht]
  exact hu

/-- What is balanced stays so inside parentheses. -/
theorem deeper (h : Leads d ts e) (n : Nat) : Leads (n + d) ts (n + e) := by
  cases n with
  | zero => simpa using h
  | succ n => exact walk_deeper h n false

theorem cons_of_still {t : Token} (h : t.IsStill) (ht : Leads d ts e) : Leads d (t :: ts) e := by
  rw [Leads, walk_cons, step_of_still h]
  exact ht

end Leads

/-! ## Conjuncts -/

/-- Puts a token before the first of several lists. -/
def consFirst (t : Token) : List (List Token) → List (List Token)
  | [] => [[t]]
  | ts :: tss => (t :: ts) :: tss

/-- The operands of the conjunctions outside of all parentheses. None if the parentheses do not
match or an OR stands outside of them. -/
def operands? : Nesting → List Token → Option (List (List Token))
  | n, [] => if n = outside then some [[]] else none
  | n, t :: ts =>
    if n = outside ∧ t.keyword? = some .and then (operands? n ts).map ([] :: ·)
    else (n.step t).bind fun m => (operands? m ts).map (consFirst t)

/-- The operands of a text that is one or several, joined by AND. -/
def conjuncts? (ts : List Token) : Option (List (List Token)) := operands? outside ts

/-- An AND outside of all parentheses is a conjunction. -/
theorem step_of_and {t : Token} (h : t.keyword? = some .and) : outside.step t = none := by
  have ho : t ≠ .symbol '(' := by rintro rfl; cases h
  have hc : t ≠ .symbol ')' := by rintro rfl; cases h
  rw [step, if_neg ho, if_neg hc, if_neg (by decide), h]
  rfl

theorem step_of_or {t : Token} (h : t.keyword? = some .or) : outside.step t = none := by
  have ho : t ≠ .symbol '(' := by rintro rfl; cases h
  have hc : t ≠ .symbol ')' := by rintro rfl; cases h
  rw [step, if_neg ho, if_neg hc, if_neg (by decide), h]

theorem ne_nil_of_operands? {n : Nesting} {ts : List Token} {tss : List (List Token)}
    (h : operands? n ts = some tss) : tss ≠ [] := by
  cases ts with
  | nil =>
    rw [operands?] at h
    split at h <;> cases h
    exact List.cons_ne_nil _ _
  | cons t ts =>
    rw [operands?] at h
    split at h
    · obtain ⟨uss, -, rfl⟩ := Option.map_eq_some_iff.mp h
      exact List.cons_ne_nil _ _
    · obtain ⟨m, -, h⟩ := Option.bind_eq_some_iff.mp h
      obtain ⟨uss, -, rfl⟩ := Option.map_eq_some_iff.mp h
      cases uss <;> exact List.cons_ne_nil _ _

/-- Self-contained tokens are one operand. -/
theorem operands?_of_walk {n : Nesting} {ts : List Token} (h : n.walk ts = some outside) :
    operands? n ts = some [ts] := by
  induction ts generalizing n with
  | nil =>
    cases h
    rfl
  | cons t ts ih =>
    rw [walk_cons] at h
    obtain ⟨m, hm, h⟩ := Option.bind_eq_some_iff.mp h
    have hand : ¬ (n = outside ∧ t.keyword? = some .and) := by
      rintro ⟨rfl, hk⟩
      rw [step_of_and hk] at hm
      cases hm
    rw [operands?, if_neg hand, hm, Option.bind_some, ih h]
    rfl

theorem conjuncts?_of_selfContained {ts : List Token} (h : SelfContained ts) :
    conjuncts? ts = some [ts] := operands?_of_walk h

theorem operands?_append {n : Nesting} {us ts : List Token} {uss : List (List Token)}
    (hu : operands? n us = some uss) (ht : SelfContained ts) :
    operands? n (us ++ .word "AND" :: ts) = some (uss ++ [ts]) := by
  induction us generalizing n uss with
  | nil =>
    rw [operands?] at hu
    split at hu <;> cases hu
    subst ‹n = outside›
    have hts : operands? outside ts = some [ts] := conjuncts?_of_selfContained ht
    rw [List.nil_append, operands?, if_pos ⟨rfl, by decide⟩, hts]
    rfl
  | cons u us ih =>
    rw [List.cons_append]
    rw [operands?] at hu ⊢
    split at hu
    · obtain ⟨tss, htss, rfl⟩ := Option.map_eq_some_iff.mp hu
      rw [if_pos ‹_›, ih htss]
      rfl
    · obtain ⟨m, hm, hu⟩ := Option.bind_eq_some_iff.mp hu
      obtain ⟨tss, htss, rfl⟩ := Option.map_eq_some_iff.mp hu
      rw [if_neg ‹_›, hm, Option.bind_some, ih htss]
      cases tss with
      | nil => exact absurd rfl (ne_nil_of_operands? htss)
      | cons c cs => rfl

/-- Self-contained tokens appended with AND are one operand more. -/
theorem conjuncts?_append {us ts : List Token} {uss : List (List Token)}
    (hu : conjuncts? us = some uss) (ht : SelfContained ts) :
    conjuncts? (us ++ .word "AND" :: ts) = some (uss ++ [ts]) := operands?_append hu ht

end RowFilter.Sql
