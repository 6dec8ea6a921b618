import RowFilter.Filter.Reader
import RowFilter.Filter.Writer
import RowFilter.Json.RoundTrip
import RowFilter.Tree.Lemmas
/-!
# Filters are read back

A filter is written as objects, and read without being told which of them is a group: the reader
tries the group first, and the condition if that fails. A written condition has no field of
a group, whatever its value is, and a written group has them both, so neither is taken for the
other.

The value of a condition is written as it stands, and settled when it is read. So a filter comes
back from its text as far as the values of its conditions come back from theirs.

Results:
* `ofJson?_toJson`: a written filter is the document of the filter with its values settled.
* `reread_toJson`: what is read is what would be written of the filter with its values as read.
* `read_text`: filters are read back from their texts.
-/
namespace RowFilter

namespace Condition

/-- The condition with its value as it comes out of the value's text. -/
def reread (c : Condition) : Condition := { c with value := c.value.reread }

/-- The condition with its value as it is kept when it is read. -/
def settled (c : Condition) : Condition :=
  { c with value := c.value.settle?.getD c.value }

/-- Whether the value of the condition is kept at all: no text in it fails to be read. -/
def canSettle (c : Condition) : Bool := c.value.settle?.isSome

theorem canSettle_reread (c : Condition) : c.reread.canSettle = c.canSettle :=
  Json.isSome_settleWith?_reread Json.ofText? c.value

/-- A condition whose value is read back from its text comes back itself. -/
theorem eq_self_of_roundTrips {c : Condition} (h : c.value.RoundTrips) :
    c.canSettle = true ∧ c.settled = c ∧ c.reread = c := by
  obtain ⟨hsettled, hreread, -⟩ := Json.roundTrips_iff.mp h
  have hself := Json.settle?_eq_self hsettled
  refine ⟨?_, ?_, ?_⟩
  · rw [canSettle, hself, Option.isSome_some]
  · rw [settled, hself, Option.getD_some]
  · rw [reread, hreread]

end Condition

namespace Filter

/-! ## Written filters -/

theorem readConjunction?_name (c : Conjunction) : readConjunction? (.str c.name) = some c := by
  cases c <;> rfl

theorem readCondition?_toJson_eq (c : Condition) :
    readCondition? c.toJson = if c.canSettle then some c.settled else none := by
  unfold Condition.canSettle Condition.settled
  cases h : c.value.settle? with
  | none => simp [readCondition?, Condition.toJson, ConditionDraft.setField?, once?,
      ConditionDraft.text?, h]
  | some v => simp [readCondition?, Condition.toJson, ConditionDraft.setField?, once?,
      ConditionDraft.text?, ConditionDraft.bool?, ConditionDraft.finish?, h]

/-- A written condition has no field of a group. -/
theorem ofJson?_toJson_leaf (c : Condition) :
    ofJson? (toJson (.leaf c)) = (readCondition? c.toJson).map .leaf := by
  rw [toJson, Condition.toJson, ofJson?]
  simp [readGroupFields, GroupDraft.finish?]

/-- A written group has no field of a condition. -/
theorem ofJson?_toJson_group (conj : Conjunction) (ts : List Filter) :
    ofJson? (toJson (.group conj ts)) = (readFilters? (toJsons ts)).map (.group conj) := by
  rw [toJson, ofJson?]
  cases h : readFilters? (toJsons ts) <;>
    simp [readGroupFields, readChildren?, GroupDraft.finish?, once?, readConjunction?_name,
      readCondition?, ConditionDraft.setField?, ConditionDraft.finish?, h]

mutual

/-- A written filter is the document of the filter with its values settled. -/
theorem ofJson?_toJson (t : Filter) (h : ∀ c ∈ t.leaves, c.canSettle = true) :
    ofJson? t.toJson = some (t.map Condition.settled) := by
  cases t with
  | leaf c =>
    rw [ofJson?_toJson_leaf, readCondition?_toJson_eq, if_pos (h c (List.mem_singleton_self c))]
    rfl
  | group conj ts =>
    rw [ofJson?_toJson_group, readFilters?_toJsons ts h]
    rfl

theorem readFilters?_toJsons (ts : List Filter)
    (h : ∀ c ∈ Tree.leavesOf ts, c.canSettle = true) :
    readFilters? (toJsons ts) = some (Tree.mapOf Condition.settled ts) := by
  cases ts with
  | nil => rfl
  | cons t ts =>
    rw [Tree.leavesOf, List.forall_mem_append] at h
    rw [toJsons, readFilters?, ofJson?_toJson t h.1, readFilters?_toJsons ts h.2]
    rfl

end

mutual

/-- The keys and the texts of a written filter are read as they are, and so are the values of its
conditions as they come out of theirs. -/
theorem reread_toJson (t : Filter) : t.toJson.reread = toJson (t.map Condition.reread) := by
  cases t with
  | leaf c => rfl
  | group conj ts =>
    rw [toJson, Tree.map, toJson, ← reread_toJsons ts]
    rfl

theorem reread_toJsons (ts : List Filter) :
    Json.rereadItems (toJsons ts) = toJsons (Tree.mapOf Condition.reread ts) := by
  cases ts with
  | nil => rfl
  | cons t ts => rw [toJsons, Json.rereadItems, reread_toJson t, reread_toJsons ts]; rfl

end

mutual

/-- A written filter can be held if the values in it can. -/
theorem representable_toJson (t : Filter) (h : ∀ c ∈ t.leaves, c.value.Representable) :
    t.toJson.Representable := by
  cases t with
  | leaf c =>
    have hc := h c (List.mem_singleton_self c)
    refine .obj ?_
    simp only [List.forall_mem_cons]
    exact ⟨.str _, .str _, hc, .bool _, fun f hf => nomatch hf⟩
  | group c ts =>
    refine .obj ?_
    simp only [List.forall_mem_cons]
    exact ⟨.str _, .arr (representable_toJsons ts h), fun f hf => nomatch hf⟩

theorem representable_toJsons (ts : List Filter)
    (h : ∀ c ∈ Tree.leavesOf ts, c.value.Representable) : ∀ j ∈ toJsons ts, j.Representable := by
  cases ts with
  | nil => exact fun j hj => nomatch hj
  | cons t ts =>
    rw [Tree.leavesOf, List.forall_mem_append] at h
    exact List.forall_mem_cons.mpr ⟨representable_toJson t h.1, representable_toJsons ts h.2⟩

end

/-! ## Texts -/

section

variable {limits : Limits} {text : String} {t : Filter}

theorem ofText_eq_ok (h : ofText text = .ok t) :
    ∃ j rest, Json.read? text = some (j, rest) ∧ ofJson? j = some t := by
  unfold ofText at h
  split at h
  · cases h
  · rename_i j rest hread
    split at h
    · cases h
    · rename_i f hf
      split at h
      · cases h
        exact ⟨j, rest, hread, hf⟩
      · cases h

theorem read_eq_ok_iff :
    read limits text = .ok t ↔ text.utf8ByteSize ≤ limits.maxJsonBytes ∧ ofText text = .ok t
      ∧ t.leafCount ≤ limits.maxConditions ∧ t.depth ≤ limits.maxDepth := by
  unfold read
  by_cases hsize : limits.maxJsonBytes < text.utf8ByteSize
  · rw [if_pos hsize]
    exact ⟨nofun, fun h => absurd h.1 (Nat.not_le.mpr hsize)⟩
  rw [if_neg hsize]
  cases htext : ofText text with
  | error e => exact ⟨nofun, fun h => nomatch h.2.1⟩
  | ok u =>
    simp only [bind, Except.bind, Except.ok.injEq]
    constructor
    · intro h
      split at h
      · cases h
      · split at h
        · cases h
        · cases h
          exact ⟨by omega, rfl, by omega, by omega⟩
    · rintro ⟨-, rfl, hcount, hdepth⟩
      rw [if_neg (by omega), if_neg (by omega)]

/-- A filter is read back from its text, if the values of its conditions are from theirs. -/
theorem ofText_text (h : ∀ c ∈ t.leaves, c.value.RoundTrips)
    (hn : t.toJson.nesting ≤ Json.maxNesting) : ofText t.text = .ok t := by
  have hself (c : Condition) (hc : c ∈ t.leaves) := Condition.eq_self_of_roundTrips (h c hc)
  have hvalues : ∀ c ∈ t.leaves, c.value.Representable := fun c hc =>
    (Json.roundTrips_iff.mp (h c hc)).1.representable
  have hread := Json.read?_text (representable_toJson t hvalues) hn
  rw [reread_toJson, Tree.map_eq_self fun c hc => (hself c hc).2.2] at hread
  have hj := ofJson?_toJson t fun c hc => (hself c hc).1
  rw [Tree.map_eq_self fun c hc => (hself c hc).2.1] at hj
  simp only [ofText, Filter.text, hread, hj]
  rfl

end

/-- Where the values of its conditions are read back from their texts, a filter that was written
within the limits is read as itself; and the written form of any filter that was read is read as
that filter. -/
theorem read_text (limits : Limits) :
    (∀ t : Filter, (∀ c ∈ t.leaves, c.value.RoundTrips) →
      t.toJson.nesting ≤ Json.maxNesting → t.text.utf8ByteSize ≤ limits.maxJsonBytes →
      t.leafCount ≤ limits.maxConditions → t.depth ≤ limits.maxDepth →
      read limits t.text = .ok t)
    ∧ ∀ (text : String) (t : Filter), read limits text = .ok t →
      (∀ c ∈ t.leaves, c.value.RoundTrips) →
      t.toJson.nesting ≤ Json.maxNesting → t.text.utf8ByteSize ≤ limits.maxJsonBytes →
      read limits t.text = .ok t := by
  constructor
  · intro t hvalues hn hsize hcount hdepth
    exact read_eq_ok_iff.mpr ⟨hsize, ofText_text hvalues hn, hcount, hdepth⟩
  · intro text t h hvalues hn hsize
    obtain ⟨-, -, hcount, hdepth⟩ := read_eq_ok_iff.mp h
    exact read_eq_ok_iff.mpr ⟨hsize, ofText_text hvalues hn, hcount, hdepth⟩

/-- A group of an empty group and a condition that has the fields of a group in its value. -/
def groupLike : Filter :=
  .group .or
    [.group .and [],
      .leaf
        { columnId := "conjunction"
          operator := "\"children\"\n"
          value := .obj
            [("conjunction", .str "and"), ("children", .arr [.float ⟨0x3fb999999999999a⟩])]
          isSymbol := true }]

/-- A filter of arrays in place of objects, with a number in a form in which none is written. -/
def arrayForms : String := "[\"or\", [[\"a\", \"equals\", 15e-1], [\"and\"]]]"

/-- The same filter as it is written. -/
def arrayFormsWritten : String :=
  "\x7b\"conjunction\":\"or\",\"children\":[" ++
    "\x7b\"columnId\":\"a\",\"operator\":\"equals\",\"value\":1.5,\"isSymbol\":false\x7d," ++
    "\x7b\"conjunction\":\"and\",\"children\":[]\x7d]\x7d"

theorem read_text_groupLike :
    read Limits.standard groupLike.text = .ok groupLike
      ∧ ∃ t, read Limits.standard arrayForms = .ok t ∧ t.text = arrayFormsWritten
        ∧ read Limits.standard arrayFormsWritten = .ok t := by
  constructor
  · have htenth : Json.rereadNumber ⟨0x3fb999999999999a⟩ = ⟨0x3fb999999999999a⟩ :=
      Json.rereadNumber_eq_self (by decide) (by decide) (by decide +kernel) (by decide +kernel)
    have hsettled : Json.Settled
        (.obj [("conjunction", .str "and"), ("children", .arr [.float ⟨0x3fb999999999999a⟩])]) := by
      refine .obj (by decide) (by decide) ?_
      simp only [List.forall_mem_cons]
      refine ⟨⟨.str _, .str _, .str _⟩, .arr ?_, fun f hf => nomatch hf⟩
      exact List.forall_mem_singleton.mpr ⟨.float (by decide), .float _, .float _⟩
    have hvalue := Json.roundTrips_iff.mpr ⟨hsettled,
      by simp only [Json.reread, Json.rereadFields, Json.rereadItems, htenth], by decide⟩
    exact (read_text Limits.standard).1 groupLike (List.forall_mem_singleton.mpr hvalue)
      (by decide) (by decide +kernel) (by decide) (by decide)
  · have hvalue : Json.RoundTrips (.float ⟨0x3ff8000000000000⟩) :=
      Json.roundTrips_float (by decide) (Json.rereadNumber_eq_self (by decide) (by decide)
        (by decide +kernel) (by decide +kernel))
    have hread : ((read Limits.standard arrayForms).toOption.map fun t =>
        (t.text, decide (t.toJson.nesting ≤ Json.maxNesting),
          decide (t.text.utf8ByteSize ≤ Limits.standard.maxJsonBytes),
          t.leaves.all fun c =>
            match c.value with
            | .float x => decide (x = ⟨0x3ff8000000000000⟩)
            | _ => false))
        = some (arrayFormsWritten, true, true, true) := by
      decide +kernel
    cases ht : read Limits.standard arrayForms with
    | error e =>
      rw [ht] at hread
      cases hread
    | ok t =>
      rw [ht] at hread
      simp only [Except.toOption, Option.map_some, Option.some.injEq, Prod.mk.injEq,
        decide_eq_true_eq, List.all_eq_true] at hread
      obtain ⟨htext, hn, hsize, hleaves⟩ := hread
      have hvalues : ∀ c ∈ t.leaves, c.value.RoundTrips := by
        intro c hc
        have hfloat := hleaves c hc
        split at hfloat
        · rename_i x hx
          rw [hx, of_decide_eq_true hfloat]
          exact hvalue
        · cases hfloat
      exact ⟨t, rfl, htext,
        htext ▸ (read_text Limits.standard).2 arrayForms t ht hvalues hn hsize⟩

end Filter

end RowFilter
