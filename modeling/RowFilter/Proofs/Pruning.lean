import RowFilter.Calendar.Zone.Database
import RowFilter.Proofs.Preparation
import RowFilter.Proofs.Verdict
/-!
# What is left of filters

Preparing a filter leaves out the conditions that have nothing to compare with, and then the groups
that have nothing left, and keeps all else where it stands. What was left out has no part in what
the filter compiles to, nor has anything of the kind that is put in.

Results:
* `thinned_of_prune`: a pruned tree is the tree with parts left out that have no leaf to keep.
* `prune_of_thinned`: leaving such parts out beforehand makes no difference.
* `prepare_prunes`: what is left of a filter, and that it compiles to the same.
-/
namespace RowFilter

/-! ## Trees with parts left out -/

namespace Tree

variable {α β ε : Type}

mutual

/-- The first tree with parts left out of its groups, all leaves of which may be dropped. Groups
keep their conjunctions and children their order, and the leaves that are kept are related. -/
inductive Thinned (drop : α → Prop) (R : α → β → Prop) : Tree α → Tree β → Prop
  | leaf {a : α} {b : β} (h : R a b) : Thinned drop R (.leaf a) (.leaf b)
  | group (c : Conjunction) {ts : List (Tree α)} {us : List (Tree β)}
    (h : ThinnedAll drop R ts us) : Thinned drop R (.group c ts) (.group c us)

inductive ThinnedAll (drop : α → Prop) (R : α → β → Prop) :
    List (Tree α) → List (Tree β) → Prop
  | nil : ThinnedAll drop R [] []
  | keep {t : Tree α} {u : Tree β} {ts : List (Tree α)} {us : List (Tree β)}
    (ht : Thinned drop R t u) (hts : ThinnedAll drop R ts us) :
    ThinnedAll drop R (t :: ts) (u :: us)
  | leaveOut {t : Tree α} {ts : List (Tree α)} {us : List (Tree β)}
    (ht : ∀ a ∈ t.leaves, drop a) (hts : ThinnedAll drop R ts us) :
    ThinnedAll drop R (t :: ts) us

end

section

variable {drop : α → Prop} {R : α → β → Prop}

mutual

/-- A pruned tree is the tree with parts left out that have no leaf to keep. -/
theorem thinned_of_prune {f : α → Except ε (Option β)} (hdrop : ∀ a, f a = .ok none → drop a)
    (hkeep : ∀ a b, f a = .ok (some b) → R a b) (t : Tree α) {u : Tree β}
    (h : prune f t = .ok (some u)) : Thinned drop R t u := by
  cases t with
  | leaf a =>
    rw [prune] at h
    obtain ⟨b, hb, h⟩ := ok_of_map h
    cases b with
    | none => cases h
    | some b => cases h; exact .leaf (hkeep a b hb)
  | group c ts =>
    rw [prune] at h
    obtain ⟨us, hus, h⟩ := ok_of_bind h
    cases us with
    | nil => cases h
    | cons v vs => cases h; exact .group c (thinnedAll_of_pruneOf hdrop hkeep ts hus)

theorem thinnedAll_of_pruneOf {f : α → Except ε (Option β)}
    (hdrop : ∀ a, f a = .ok none → drop a) (hkeep : ∀ a b, f a = .ok (some b) → R a b)
    (ts : List (Tree α)) {us : List (Tree β)} (h : pruneOf f ts = .ok us) :
    ThinnedAll drop R ts us := by
  cases ts with
  | nil => cases h; exact .nil
  | cons t ts =>
    rw [pruneOf] at h
    obtain ⟨u, hu, h⟩ := ok_of_bind h
    obtain ⟨vs, hvs, h⟩ := ok_of_bind h
    have hrest := thinnedAll_of_pruneOf hdrop hkeep ts hvs
    cases u with
    | none =>
      cases h
      exact .leaveOut (fun a ha => hdrop a ((prune_eq_none_iff t).mp hu a ha)) hrest
    | some u =>
      cases h
      exact .keep (thinned_of_prune hdrop hkeep t hu) hrest

end

end

mutual

/-- The leaves of a tree that was thinned out are those that may not be dropped. -/
theorem forall₂_of_thinned {drop : α → Bool} {R : α → β → Prop}
    (hR : ∀ a b, R a b → drop a = false) {t : Tree α} {u : Tree β}
    (h : Thinned (drop · = true) R t u) :
    List.Forall₂ R (t.leaves.filter (!drop ·)) u.leaves := by
  cases h with
  | @leaf a b h =>
    rw [leaves, List.filter_singleton, hR a b h]
    exact .cons h .nil
  | group c h => exact forall₂_of_thinnedAll hR h

theorem forall₂_of_thinnedAll {drop : α → Bool} {R : α → β → Prop}
    (hR : ∀ a b, R a b → drop a = false) {ts : List (Tree α)} {us : List (Tree β)}
    (h : ThinnedAll (drop · = true) R ts us) :
    List.Forall₂ R ((leavesOf ts).filter (!drop ·)) (leavesOf us) := by
  cases h with
  | nil => exact .nil
  | keep ht hts =>
    rw [leavesOf, leavesOf, List.filter_append]
    exact List.rel_append (forall₂_of_thinned hR ht) (forall₂_of_thinnedAll hR hts)
  | @leaveOut t ts _ ht hts =>
    have hnil : t.leaves.filter (!drop ·) = [] :=
      List.filter_eq_nil_iff.mpr fun a ha => by simp [ht a ha]
    rw [leavesOf, List.filter_append, hnil, List.nil_append]
    exact forall₂_of_thinnedAll hR hts

end

mutual

/-- What may be dropped can as well be left out beforehand. -/
theorem prune_of_thinned {drop : α → Prop} {f : α → Except ε (Option β)}
    (hdrop : ∀ a, drop a → f a = .ok none) {t u : Tree α} (h : Thinned drop Eq t u) :
    prune f t = prune f u := by
  cases h with
  | leaf h => rw [h]
  | group c h => rw [prune, prune, pruneOf_of_thinnedAll hdrop h]

theorem pruneOf_of_thinnedAll {drop : α → Prop} {f : α → Except ε (Option β)}
    (hdrop : ∀ a, drop a → f a = .ok none) {ts us : List (Tree α)}
    (h : ThinnedAll drop Eq ts us) : pruneOf f ts = pruneOf f us := by
  cases h with
  | nil => rfl
  | keep ht hts =>
    rw [pruneOf, pruneOf, prune_of_thinned hdrop ht, pruneOf_of_thinnedAll hdrop hts]
  | @leaveOut t ts _ ht hts =>
    have hnone : prune f t = .ok none :=
      (prune_eq_none_iff t).mpr fun a ha => hdrop a (ht a ha)
    rw [pruneOf, hnone, ← pruneOf_of_thinnedAll hdrop hts]
    cases pruneOf f ts <;> rfl

end

end Tree

/-! ## Conditions -/

namespace Condition

variable {schema : Schema} {placeholder : String} {actor : Option String} {q q' : Condition}

/-- Whether a condition is on a column that there is and has nothing to compare with. -/
def isVacuousIn (schema : Schema) (q : Condition) : Bool := (schema q.columnId).any q.isVacuous

/-- What is left of a condition that is not vacuous: all of it but its value, and that too unless
its column may refer to users. -/
structure IsLeft (schema : Schema) (q q' : Condition) : Prop where
  same : q' = { q with value := q'.value }
  value : q'.value = q.value
    ∨ ∃ column, schema q.columnId = some column ∧ column.options.actorReference = true
  not_vacuous : q.isVacuousIn schema = false

theorem prepare_eq_none_iff_isVacuousIn :
    q.prepare schema placeholder actor = .ok none ↔ q.isVacuousIn schema = true := by
  rw [isVacuousIn]
  cases hs : schema q.columnId with
  | none =>
    rw [prepare, hs]
    constructor <;> intro h <;> cases h
  | some column => exact prepare_eq_none_iff hs

theorem isLeft_of_prepare (h : q.prepare schema placeholder actor = .ok (some q')) :
    q.IsLeft schema q' := by
  obtain ⟨hid, hoperator, hsymbol⟩ := prepare_ok h
  refine ⟨by rw [← hid, ← hoperator, ← hsymbol], ?_, ?_⟩
  · rw [prepare] at h
    cases hs : schema q.columnId with
    | none =>
      rw [hs] at h
      cases h
      exact .inl rfl
    | some column =>
      rw [hs] at h
      obtain ⟨w, hw, h⟩ := ok_of_bind h
      split at h
      · cases h
      cases h
      unfold withActor at hw
      split at hw
      · exact .inr ⟨column, rfl, (Bool.and_eq_true_iff.mp ‹_›).1⟩
      · cases hw
        exact .inl rfl
  · rw [← Bool.not_eq_true]
    intro hv
    rw [prepare_eq_none_iff_isVacuousIn.mpr hv] at h
    cases h

end Condition

/-! ## Filters -/

/-- A filter compiles to what any filter does that is prepared alike. -/
theorem Compiler.predicate_congr (c : Compiler) {schema : Schema} {ctx : Context} {f f' : Filter}
    (h : f.prepare schema c.actorPlaceholder ctx.actor
      = f'.prepare schema c.actorPlaceholder ctx.actor) (k : Nat) :
    c.predicate schema ctx k f = c.predicate schema ctx k f' := by
  rw [predicate_eq, predicate_eq, requirements, requirements, h]

/-- What is left of a filter that can be prepared: its conditions that are not vacuous, in order,
in the groups they stood in with the conjunctions these had, none of them empty; or nothing if
there are no such conditions. That is prepared to itself and compiles to what the filter does.
Putting vacuous conditions or empty groups into the groups of any filter changes nothing in what it
compiles to. -/
theorem prepare_prunes (c : Compiler) (schema : Schema) (ctx : Context) (f : Filter) :
    let prepare := Filter.prepare schema c.actorPlaceholder ctx.actor
    let kept := f.leaves.filter fun q => !q.isVacuousIn schema
    (∀ o, prepare f = .ok o →
      List.Forall₂ (Condition.IsLeft schema) kept (Tree.leavesOf o.toList)
      ∧ (o = none ↔ kept = [])
      ∧ ∀ g, o = some g →
        g.Pruned ∧ Tree.Thinned (·.isVacuousIn schema = true) (Condition.IsLeft schema) f g
        ∧ prepare g = .ok (some g)
        ∧ ∀ k, c.predicate schema ctx k g = c.predicate schema ctx k f)
    ∧ ∀ f', Tree.Thinned (·.isVacuousIn schema = true) Eq f' f →
      ∀ k, c.predicate schema ctx k f' = c.predicate schema ctx k f := by
  intro prepare kept
  have hdrop (q : Condition) :
      q.prepare schema c.actorPlaceholder ctx.actor = .ok none ↔ q.isVacuousIn schema = true :=
    Condition.prepare_eq_none_iff_isVacuousIn
  have hnone : prepare f = .ok none ↔ kept = [] := by
    rw [List.filter_eq_nil_iff]
    simp only [Bool.not_eq_true', Bool.not_eq_false, ← hdrop]
    exact Tree.prune_eq_none_iff f
  constructor
  · intro o ho
    cases o with
    | none =>
      rw [hnone.mp ho]
      exact ⟨.nil, iff_of_true rfl rfl, nofun⟩
    | some g =>
      have hthinned := Tree.thinned_of_prune (fun q => (hdrop q).mp)
        (fun q q' => Condition.isLeft_of_prepare) f ho
      have hself := Filter.prepare_part ho (Tree.pruned_of_prune f ho) (List.Subset.refl _)
      have hleaves := Tree.forall₂_of_thinned (fun _ _ h => h.not_vacuous) hthinned
      refine ⟨?_, iff_of_false nofun fun h => ?_, ?_⟩
      · rw [Option.toList, Tree.leavesOf, Tree.leavesOf, List.append_nil]
        exact hleaves
      · -- if no condition were kept, nothing would be left
        rw [← hnone, ho] at h
        cases h
      · rintro _ ⟨⟩
        exact ⟨Tree.pruned_of_prune f ho, hthinned, hself,
          c.predicate_congr (hself.trans ho.symm)⟩
  · intro f' hf'
    exact c.predicate_congr (Tree.prune_of_thinned (fun q => (hdrop q).mpr) hf')

/-- Scores, and lists of people. -/
def staffed : Schema :=
  Schema.ofList [{ id := "score", dbName := "score", semanticType := .number },
    { id := "people", dbName := "people", semanticType := .text, isMultiValued := true,
      options := { actorReference := true } }]

/-- Rows with either of two among their people. -/
def among (a b : String) : Filter :=
  .group .or [.leaf { columnId := "people", operator := "anyOf",
                      value := .arr [.str a, .str b] }]

/-- The same after a group of a condition without a value and of an empty group. -/
def amongPadded (a b : String) : Filter :=
  .group .or [
    .group .and [
      .leaf { columnId := "score", operator := "equals", value := .null },
      .group .or []],
    .leaf { columnId := "people", operator := "anyOf", value := .arr [.str a, .str b] }]

/-- One condition is left, with the user named in it. -/
theorem prepare_prunes_among :
    let c := Compiler.mk .postgres .bundled .utc "me" none
    let ctx : Context := ⟨some "bob", ⟨0, 0⟩⟩
    let padded := amongPadded "me" "ann"
    let left := among "bob" "ann"
    padded.prepare staffed c.actorPlaceholder ctx.actor = .ok (some left)
      ∧ List.Forall₂ (Condition.IsLeft staffed)
        (padded.leaves.filter fun q => !q.isVacuousIn staffed) left.leaves
      ∧ left.Pruned
      ∧ left.prepare staffed c.actorPlaceholder ctx.actor = .ok (some left)
      ∧ (∀ k, c.predicate staffed ctx k left = c.predicate staffed ctx k padded)
      ∧ Tree.Thinned (·.isVacuousIn staffed = true) Eq padded (among "me" "ann")
      ∧ ∀ k, c.predicate staffed ctx k padded = c.predicate staffed ctx k (among "me" "ann") := by
  intro c ctx padded left
  have hleft : padded.prepare staffed "me" (some "bob") = .ok (some left) := rfl
  have hthinned : Tree.Thinned (·.isVacuousIn staffed = true) Eq padded (among "me" "ann") := by
    refine .group .or (.leaveOut ?_ (.keep (.leaf rfl) .nil))
    exact List.forall_mem_singleton.mpr rfl
  obtain ⟨hprepared, -⟩ := prepare_prunes c staffed ctx padded
  obtain ⟨-, hpadded⟩ := prepare_prunes c staffed ctx (among "me" "ann")
  obtain ⟨hleaves, -, hkept⟩ := hprepared _ hleft
  obtain ⟨hpruned, -, hself, hsame⟩ := hkept left rfl
  exact ⟨hleft, hleaves, hpruned, hself, hsame, hthinned, hpadded padded hthinned⟩

end RowFilter
