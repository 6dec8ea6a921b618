import RowFilter.Proofs.Preparation
import RowFilter.Proofs.Verdict
/-!
# Where the actor is named

Whether a value names the placeholder is looked up in the value and in its elements, but the actor
is then put in its place at any depth. So a list within a list is left as it is or not by what
stands beside it.

Results:
* `Json.substitute_eq_self_iff`: which values the actor leaves as they are.
* `Json.substitute_eq_alone_iff`: the elements of a list that fare alike alone and beside others.
* `prepare_list`: what is made of a list, and when each of its elements is treated on its own.
-/
namespace RowFilter

namespace Json

variable {placeholder actor : String}

/-! ## Values with the placeholder -/

mutual

/-- Whether a value is the placeholder or a list that holds it at any depth. -/
def holds (placeholder : String) : Json → Bool
  | .arr items => anyHolds placeholder items
  | j => isPlaceholder placeholder j

def anyHolds (placeholder : String) : List Json → Bool
  | [] => false
  | j :: items => holds placeholder j || anyHolds placeholder items

end

/-- Whether a value is a list that holds the placeholder. -/
def buries (placeholder : String) : Json → Bool
  | .arr items => anyHolds placeholder items
  | _ => false

/-- The value with the actor in it if it mentions the placeholder. -/
def named (placeholder actor : String) (j : Json) : Json :=
  if j.mentions placeholder then j.substitute placeholder actor else j

/-- What becomes of an element of a list if there are no others. -/
def alone (placeholder actor : String) (j : Json) : Json :=
  if j.isPlaceholder placeholder then j.substitute placeholder actor else j

theorem anyHolds_eq_any (items : List Json) :
    anyHolds placeholder items = items.any (holds placeholder) := by
  induction items with
  | nil => rfl
  | cons j items ih => rw [anyHolds, ih, List.any_cons]

/-- A value holds the placeholder as itself or within. -/
theorem holds_eq_isPlaceholder_or_buries (j : Json) :
    j.holds placeholder = (j.isPlaceholder placeholder || j.buries placeholder) := by
  cases j <;> first | rfl | exact (Bool.or_false _).symm

theorem buries_of_isPlaceholder {j : Json} (h : j.isPlaceholder placeholder = true) :
    j.buries placeholder = false := by
  cases j <;> first | rfl | cases h

theorem holds_of_isPlaceholder {j : Json} (h : j.isPlaceholder placeholder = true) :
    j.holds placeholder = true := by
  rw [holds_eq_isPlaceholder_or_buries, h, Bool.true_or]

theorem holds_of_mentions {j : Json} (h : j.mentions placeholder = true) :
    j.holds placeholder = true := by
  cases j with
  | arr items =>
    obtain ⟨x, hx, hplaceholder⟩ := List.any_eq_true.mp h
    rw [holds, anyHolds_eq_any]
    exact List.any_eq_true.mpr ⟨x, hx, holds_of_isPlaceholder hplaceholder⟩
  | _ => exact h

theorem isPlaceholder_obj_iff {fields : List (String × Json)} :
    (Json.obj fields).isPlaceholder placeholder = true
      ↔ find? "id" fields = some (.str placeholder) := by
  rw [isPlaceholder]
  split
  · next s hs => rw [hs, decide_eq_true_iff, Option.some.injEq, Json.str.injEq]
  · next hs => exact iff_of_false Bool.false_ne_true (hs placeholder)

/-! ## What is left as it is -/

theorem put_eq_self_iff {α : Type} {key : String} {v w : α} {fields : List (String × α)}
    (h : find? key fields = some v) : put key w fields = fields ↔ w = v := by
  induction fields with
  | nil => cases h
  | cons field fields ih =>
    obtain ⟨k, x⟩ := field
    rw [find?] at h
    rw [put]
    split at h
    · cases h
      rw [if_pos ‹_›, List.cons.injEq, Prod.mk.injEq]
      exact ⟨fun h => h.1.2, fun h => ⟨⟨rfl, h⟩, rfl⟩⟩
    · rw [if_neg ‹_›, List.cons.injEq, ih h]
      exact and_iff_right rfl

theorem substitute_obj_eq_self_iff (fields : List (String × Json)) :
    (Json.obj fields).substitute placeholder actor = .obj fields
      ↔ actor = placeholder ∨ (Json.obj fields).isPlaceholder placeholder = false := by
  rw [← Bool.not_eq_true, isPlaceholder_obj_iff]
  by_cases hid : find? "id" fields = some (.str placeholder)
  · rw [substitute_obj_of_id placeholder actor hid, Json.obj.injEq, put_eq_self_iff hid,
      Json.str.injEq]
    exact (or_iff_left (not_not_intro hid)).symm
  · exact iff_of_true (substitute_obj_of_not placeholder actor hid) (.inr hid)

mutual

/-- The actor leaves a value as it is that does not hold the placeholder, and no other. -/
theorem substitute_eq_self_iff (j : Json) :
    j.substitute placeholder actor = j ↔ actor = placeholder ∨ j.holds placeholder = false := by
  cases j with
  | arr items => rw [substitute, holds, Json.arr.injEq, substituteAll_eq_self_iff items]
  | obj fields => exact substitute_obj_eq_self_iff fields
  | str s =>
    show (if s = placeholder then Json.str actor else .str s) = .str s
      ↔ actor = placeholder ∨ decide (s = placeholder) = false
    by_cases hs : s = placeholder
    · rw [if_pos hs, Json.str.injEq, hs]
      exact (or_iff_left (by simp)).symm
    · rw [if_neg hs]
      exact iff_of_true rfl (.inr (decide_eq_false hs))
  | null => exact iff_of_true rfl (.inr rfl)
  | bool b => exact iff_of_true rfl (.inr rfl)
  | int i => exact iff_of_true rfl (.inr rfl)
  | float x => exact iff_of_true rfl (.inr rfl)

theorem substituteAll_eq_self_iff (items : List Json) :
    substituteAll placeholder actor items = items
      ↔ actor = placeholder ∨ anyHolds placeholder items = false := by
  cases items with
  | nil => exact iff_of_true rfl (.inr rfl)
  | cons j items =>
    rw [substituteAll, anyHolds, List.cons.injEq, substitute_eq_self_iff j,
      substituteAll_eq_self_iff items, Bool.or_eq_false_iff, or_and_left]

end

/-- A value that is not seen to name the placeholder is left as it is exactly if what is looked up
is all there is. -/
theorem substitute_eq_self_of_mentions_iff (j : Json) :
    (j.mentions placeholder = false → j.substitute placeholder actor = j)
      ↔ actor = placeholder ∨ j.mentions placeholder = j.holds placeholder := by
  rw [substitute_eq_self_iff]
  by_cases ha : actor = placeholder
  · exact iff_of_true (fun _ => .inl ha) (.inl ha)
  · rw [or_iff_right ha, or_iff_right ha]
    cases hm : j.mentions placeholder with
    | false => exact (forall_prop_of_true rfl).trans eq_comm
    | true => exact iff_of_true nofun (holds_of_mentions hm).symm

/-- With an actor of another name, only a list that holds the placeholder fares differently beside
others than alone. -/
theorem substitute_eq_alone_iff (j : Json) :
    j.substitute placeholder actor = j.alone placeholder actor
      ↔ actor = placeholder ∨ j.buries placeholder = false := by
  rw [alone]
  split
  · exact iff_of_true rfl (.inr (buries_of_isPlaceholder ‹_›))
  · next h =>
    rw [substitute_eq_self_iff, holds_eq_isPlaceholder_or_buries, Bool.eq_false_iff.mpr h,
      Bool.false_or]

theorem substituteAll_eq_map (items : List Json) :
    substituteAll placeholder actor items = items.map (substitute placeholder actor) := by
  induction items with
  | nil => rfl
  | cons j items ih => rw [substituteAll, ih, List.map_cons]

theorem named_arr (items : List Json) :
    (Json.arr items).named placeholder actor = .arr (if items.any (·.isPlaceholder placeholder)
      then items.map (·.substitute placeholder actor) else items) := by
  rw [named, mentions, substitute, substituteAll_eq_map, apply_ite Json.arr]

theorem named_singleton (j : Json) :
    (Json.arr [j]).named placeholder actor = .arr [j.alone placeholder actor] := by
  have hany : [j].any (·.isPlaceholder placeholder) = j.isPlaceholder placeholder :=
    Bool.or_false _
  rw [named_arr, hany, alone]
  split <;> rfl

/-- A list becomes what its elements become alone exactly if none of them is the placeholder or
none a list that holds it. -/
theorem forall₂_alone_iff (items : List Json) :
    List.Forall₂ (fun x y => y = x.alone placeholder actor) items
        (if items.any (·.isPlaceholder placeholder)
          then items.map (·.substitute placeholder actor) else items)
      ↔ actor = placeholder ∨ (∀ x ∈ items, x.isPlaceholder placeholder = false)
        ∨ ∀ x ∈ items, x.buries placeholder = false := by
  cases hany : items.any (·.isPlaceholder placeholder) with
  | false =>
    have hno : ∀ x ∈ items, x.isPlaceholder placeholder = false :=
      fun x hx => Bool.eq_false_iff.mpr (List.any_eq_false.mp hany x hx)
    refine iff_of_true (List.forall₂_same.mpr fun x hx => ?_) (.inr (.inl hno))
    rw [alone, hno x hx]
    rfl
  | true =>
    obtain ⟨x, hx, hplaceholder⟩ := List.any_eq_true.mp hany
    have hsome : ¬ ∀ x ∈ items, x.isPlaceholder placeholder = false := fun hno => by
      rw [hno x hx] at hplaceholder
      cases hplaceholder
    -- the actor is put into every element, the placeholder or not
    rw [if_pos rfl, List.forall₂_map_right_iff, List.forall₂_same, or_iff_right hsome]
    simp only [substitute_eq_alone_iff]
    by_cases ha : actor = placeholder
    · exact iff_of_true (fun _ _ => .inl ha) (.inl ha)
    · simp only [or_iff_right ha]

end Json

/-! ## Conditions -/

namespace Condition

variable {schema : Schema} {placeholder actor : String} {column : Column} {q : Condition}

/-- With a user, only a condition without a value is dropped. -/
theorem prepare_of_reference (hs : schema q.columnId = some column)
    (href : column.options.actorReference = true) (v : Json) :
    ({ q with value := v } : Condition).prepare schema placeholder (some actor)
      = .ok (if ({ q with value := v } : Condition).isVacuous column then none
        else some { q with value := v.named placeholder actor }) := by
  have hactor : ({ q with value := v } : Condition).withActor column placeholder (some actor)
      = .ok { q with value := v.named placeholder actor } := by
    rw [withActor, href, Bool.true_and, Json.named]
    split <;> rfl
  rw [prepare, hs]
  show (({ q with value := v } : Condition).withActor column placeholder (some actor) >>= _) = _
  rw [hactor, ← isVacuous_withActor hactor]
  rfl

theorem prepare_singleton (hs : schema q.columnId = some column)
    (href : column.options.actorReference = true) (x : Json) :
    ({ q with value := .arr [x] } : Condition).prepare schema placeholder (some actor)
      = .ok (some { q with value := .arr [x.alone placeholder actor] }) := by
  have hvacuous : ({ q with value := .arr [x] } : Condition).isVacuous column = false :=
    Bool.and_false _
  rw [prepare_of_reference hs href, hvacuous, Json.named_singleton]
  rfl

end Condition

/-- On a column that refers to users, the user is named in all of a list if one of its elements is
the placeholder, and else nowhere. It is the list of what each of its elements becomes on its own
exactly if the user has the name of the placeholder, no element is the placeholder, or no element
is a list that holds it. A value that does not mention the placeholder is left as it is exactly if
the user has that name or the value does not hold it any deeper. -/
theorem prepare_list {schema : Schema} {column : Column} {q : Condition}
    (hs : schema q.columnId = some column) (href : column.options.actorReference = true)
    (placeholder actor : String) :
    let left (v : Json) := ({ q with value := v } : Condition).prepare schema placeholder
      (some actor)
    (∀ xs : List Json, ∃ ys,
      left (.arr xs) = .ok (if ({ q with value := .arr xs } : Condition).isVacuous column then none
        else some { q with value := .arr ys })
      ∧ ys = (if xs.any (·.isPlaceholder placeholder) then
        xs.map (·.substitute placeholder actor) else xs)
      ∧ (List.Forall₂ (fun x y => left (.arr [x]) = .ok (some { q with value := .arr [y] })) xs ys
        ↔ actor = placeholder ∨ (∀ x ∈ xs, x.isPlaceholder placeholder = false)
          ∨ ∀ x ∈ xs, x.buries placeholder = false))
    ∧ ∀ v : Json, (v.mentions placeholder = false → v.substitute placeholder actor = v)
      ↔ actor = placeholder ∨ v.mentions placeholder = v.holds placeholder := by
  intro left
  refine ⟨fun xs => ⟨_, ?_, rfl, ?_⟩, Json.substitute_eq_self_of_mentions_iff⟩
  · rw [← Json.named_arr]
    exact Condition.prepare_of_reference hs href (.arr xs)
  · have hone (x y : Json) : left (.arr [x]) = .ok (some { q with value := .arr [y] })
        ↔ y = x.alone placeholder actor := by
      show Condition.prepare schema placeholder (some actor) _ = _ ↔ _
      rw [Condition.prepare_singleton hs href x]
      simp [eq_comm]
    simp only [hone]
    exact Json.forall₂_alone_iff xs

/-- People by their names, and those of their groups. -/
def peopleColumn : Column :=
  { id := "people", dbName := "people", semanticType := .text, isMultiValued := true,
    options := { actorReference := true } }

def onPeople (items : List Json) : Condition :=
  { columnId := "people", operator := "anyOf", value := .arr items }

/-- Beside a list that does not hold the placeholder the user is named as if alone, and a value
that does not mention the placeholder is left as it is. -/
theorem prepare_list_besideAnn :
    let schema := Schema.ofList [peopleColumn]
    let left (items : List Json) := (onPeople items).prepare schema "me" (some "bob")
    schema "people" = some peopleColumn ∧ peopleColumn.options.actorReference = true
      ∧ left [.str "me", .arr [.str "ann"]]
        = .ok (some (onPeople [.str "bob", .arr [.str "ann"]]))
      ∧ List.Forall₂ (fun x y => left [x] = .ok (some (onPeople [y])))
        [.str "me", .arr [.str "ann"]] [.str "bob", .arr [.str "ann"]]
      ∧ (Json.arr [.arr [.str "ann"]]).substitute "me" "bob" = .arr [.arr [.str "ann"]] := by
  intro schema left
  have hs : schema (onPeople []).columnId = some peopleColumn := rfl
  obtain ⟨hlist, hvalue⟩ := prepare_list hs rfl "me" "bob"
  obtain ⟨ys, -, rfl, hall⟩ := hlist [.str "me", .arr [.str "ann"]]
  have hburies : ∀ x ∈ [Json.str "me", .arr [.str "ann"]], x.buries "me" = false :=
    List.forall_mem_cons.mpr ⟨rfl, List.forall_mem_singleton.mpr rfl⟩
  exact ⟨rfl, rfl, rfl, hall.mpr (.inr (.inr hburies)), (hvalue _).mpr (.inr rfl) rfl⟩

/-- A list that holds the placeholder is left as it is alone, and not beside the placeholder. -/
theorem not_prepare_list_each :
    let schema := Schema.ofList [peopleColumn]
    let left (items : List Json) := (onPeople items).prepare schema "me" (some "bob")
    ¬ ∃ ys, left [.str "me", .arr [.str "me"]] = .ok (some (onPeople ys))
      ∧ List.Forall₂ (fun x y => left [x] = .ok (some (onPeople [y])))
        [.str "me", .arr [.str "me"]] ys := by
  rintro schema left ⟨ys, hys, hall⟩
  have hboth : left [.str "me", .arr [.str "me"]]
      = .ok (some (onPeople [.str "bob", .arr [.str "bob"]])) := rfl
  have halone : left [.arr [.str "me"]] = .ok (some (onPeople [.arr [.str "me"]])) := rfl
  rw [hboth] at hys
  cases hys
  obtain ⟨-, hsecond⟩ := List.forall₂_cons.mp hall
  obtain ⟨hsecond, -⟩ := List.forall₂_cons.mp hsecond
  rw [halone] at hsecond
  simp [onPeople] at hsecond

end RowFilter
