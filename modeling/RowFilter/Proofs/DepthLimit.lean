import RowFilter.Json.Nesting
import RowFilter.Proofs.RoundTrip
import RowFilter.Tree.Lemmas
/-!
# Filters that are too deep

A filter in which groups stand too deep within each other is refused for that, if it is read at
all. Each group is written as an object with a list in it, so that a filter nests twice as deep as
a document than as a tree, and the reader of documents gives up where the limit on the depth of
filters is not yet reached.

Results:
* `two_mul_depth_le`: how deep a written filter nests at least.
* `ofText_text_eq`: what a written filter is read as, whatever its values.
* `read_text_of_deep`: why a written filter beyond the limit on depth is refused.
-/
namespace RowFilter

namespace Filter

/-! ## Written filters -/

mutual

/-- A written filter is none if a value in it is not kept. -/
theorem ofJson?_toJson_eq_none (t : Filter) (h : ∃ c ∈ t.leaves, c.canSettle = false) :
    ofJson? t.toJson = none := by
  obtain ⟨c, hc, hnot⟩ := h
  cases t with
  | leaf c' =>
    cases List.mem_singleton.mp hc
    rw [ofJson?_toJson_leaf, readCondition?_toJson_eq, hnot]
    rfl
  | group conj ts =>
    rw [ofJson?_toJson_group, readFilters?_toJsons_eq_none ts ⟨c, hc, hnot⟩]
    rfl

theorem readFilters?_toJsons_eq_none (ts : List Filter)
    (h : ∃ c ∈ Tree.leavesOf ts, c.canSettle = false) : readFilters? (toJsons ts) = none := by
  obtain ⟨c, hc, hnot⟩ := h
  cases ts with
  | nil => cases hc
  | cons t ts =>
    rw [toJsons, readFilters?]
    rcases List.mem_append.mp hc with hc | hc
    · rw [ofJson?_toJson_eq_none t ⟨c, hc, hnot⟩]
      rfl
    · rw [readFilters?_toJsons_eq_none ts ⟨c, hc, hnot⟩]
      cases ofJson? t.toJson <;> rfl

end

/-! ## Depth and nesting -/

mutual

/-- A group is written as an object with a list in it. -/
theorem two_mul_depth_le (t : Filter) : 2 * t.depth ≤ t.toJson.nesting + 1 := by
  cases t with
  | leaf c =>
    rw [toJson, Condition.toJson, Json.nesting, Tree.depth]
    omega
  | group conj ts =>
    have hts := two_mul_depthOf_le ts
    have hn : (toJson (.group conj ts)).nesting = 2 + Json.itemsNesting (toJsons ts) := by
      simp only [toJson, Json.nesting, Json.fieldsNesting]
      omega
    rw [hn, Tree.depth]
    omega

theorem two_mul_depthOf_le (ts : List Filter) :
    2 * Tree.depthOf ts ≤ Json.itemsNesting (toJsons ts) + 1 := by
  cases ts with
  | nil => exact Nat.zero_le _
  | cons t ts =>
    have ht := two_mul_depth_le t
    have hts := two_mul_depthOf_le ts
    rw [Tree.depthOf, toJsons, Json.itemsNesting]
    omega

end

/-! ## Texts -/

section

variable {t : Filter} (hvalues : ∀ c ∈ t.leaves, c.value.Representable)

include hvalues

/-- What a written filter is read as, whatever its values. -/
theorem ofText_text_eq :
    ofText t.text
      = if Json.maxNesting < t.toJson.nesting then .error .notJson
        else if t.leaves.all Condition.canSettle then
          .ok ((t.map Condition.reread).map Condition.settled)
        else .error .notAFilter := by
  have hj := representable_toJson t hvalues
  -- whether a value is kept is the same for the values as they are read
  have hkept : (t.map Condition.reread).leaves.all Condition.canSettle
      = t.leaves.all Condition.canSettle := by
    rw [Tree.leaves_map, List.all_map]
    exact congrArg t.leaves.all (funext Condition.canSettle_reread)
  rw [ofText, Filter.text, ← hkept]
  split_ifs with hn hall
  · rw [Json.read?_text_eq_none hj hn]
  · rw [Json.read?_text hj (Nat.not_lt.mp hn), reread_toJson]
    dsimp only
    rw [ofJson?_toJson _ (List.all_eq_true.mp hall)]
    rfl
  · rw [Json.read?_text hj (Nat.not_lt.mp hn), reread_toJson]
    have hnot : ∃ c ∈ (t.map Condition.reread).leaves, c.canSettle = false := by
      simpa only [List.all_eq_true, not_forall, exists_prop, Bool.not_eq_true] using hall
    dsimp only
    rw [ofJson?_toJson_eq_none _ hnot]

/-- A filter that is written within the limits on size and on conditions, and is deeper than the
limit on depth, is refused for its depth exactly if it nests no deeper than documents are read, and
its values are such as are kept. Where the limit on depth is 64 or more, none is refused for it. -/
theorem read_text_of_deep {limits : Limits} (hsize : t.text.utf8ByteSize ≤ limits.maxJsonBytes)
    (hcount : t.leafCount ≤ limits.maxConditions) (hdepth : limits.maxDepth < t.depth) :
    read limits t.text = .error
        (if Json.maxNesting < t.toJson.nesting then .notJson
          else if t.leaves.all Condition.canSettle then .tooDeep limits.maxDepth
          else .notAFilter)
      ∧ (64 ≤ limits.maxDepth → read limits t.text = .error .notJson) := by
  have hread : read limits t.text = .error
      (if Json.maxNesting < t.toJson.nesting then .notJson
        else if t.leaves.all Condition.canSettle then .tooDeep limits.maxDepth
        else .notAFilter) := by
    rw [read, if_neg (Nat.not_lt.mpr hsize), ofText_text_eq hvalues]
    split_ifs with hn hall
    · rfl
    · have hcount' :
          ¬ limits.maxConditions < ((t.map Condition.reread).map Condition.settled).leafCount := by
        rw [Tree.leafCount, Tree.leaves_map, Tree.leaves_map, List.length_map, List.length_map]
        exact Nat.not_lt.mpr hcount
      have hdepth' : limits.maxDepth < ((t.map Condition.reread).map Condition.settled).depth := by
        rwa [Tree.depth_map, Tree.depth_map]
      show (if limits.maxConditions < _ then _ else if limits.maxDepth < _ then _ else _) = _
      rw [if_neg hcount', if_pos hdepth']
    · rfl
  refine ⟨hread, fun h => hread.trans ?_⟩
  have hn : Json.maxNesting < t.toJson.nesting := by
    have := two_mul_depth_le t
    rw [Json.maxNesting]
    omega
  rw [if_pos hn]

end

/-- A condition on a score with groups around it, as many as asked for. -/
def nested : Nat → Filter
  | 0 => .leaf { columnId := "score", operator := "equals", value := .int 1 }
  | n + 1 => .group .and [nested n]

theorem leaves_nested (n : Nat) :
    (nested n).leaves = [{ columnId := "score", operator := "equals", value := .int 1 }] := by
  induction n with
  | zero => rfl
  | succ n ih => rw [nested, Tree.leaves, Tree.leavesOf, ih, Tree.leavesOf, List.append_nil]

theorem settled_nested (n : Nat) : ∀ c ∈ (nested n).leaves, c.value.Settled := by
  rw [leaves_nested, List.forall_mem_singleton]
  exact ⟨.int (by decide), .int 1, .int 1⟩

theorem depth_nested (n : Nat) : (nested n).depth = n + 1 := by
  induction n with
  | zero => rfl
  | succ n ih => rw [nested, Tree.depth, Tree.depthOf, ih, Tree.depthOf, Nat.max_zero, Nat.add_comm]

theorem text_nested_succ (n : Nat) :
    (nested (n + 1)).text
      = "\x7b\"conjunction\":\"and\",\"children\":[" ++ (nested n).text ++ "]\x7d" := by
  rw [← String.toList_inj]
  simp only [Filter.text, nested, toJson, toJsons, Json.text, Json.chars, Json.fieldsChars,
    Json.itemsChars, String.toList_append, String.toList_ofList, List.append_assoc,
    List.cons_append]
  rfl

theorem utf8ByteSize_nested (n : Nat) : (nested n).text.utf8ByteSize = 35 * n + 67 := by
  induction n with
  | zero => decide +kernel
  | succ n ih =>
    have hopening : "\x7b\"conjunction\":\"and\",\"children\":[".utf8ByteSize = 33 := by decide
    have hclosing : "]\x7d".utf8ByteSize = 2 := by decide
    rw [text_nested_succ, String.utf8ByteSize_append, String.utf8ByteSize_append, ih, hopening,
      hclosing]
    omega

/-- One group too many is found out under a limit of five groups, and not under that of 64. -/
theorem read_text_of_deep_nested :
    (nested 5).depth = 6 ∧ read ⟨65536, 200, 5⟩ (nested 5).text = .error (.tooDeep 5)
      ∧ (nested 64).depth = 65 ∧ read Limits.standard (nested 64).text = .error .notJson := by
  have hdeep (n : Nat) (limits : Limits) (hsize : 35 * n + 67 ≤ limits.maxJsonBytes)
      (hcount : 1 ≤ limits.maxConditions) (hdepth : limits.maxDepth < n + 1) :=
    read_text_of_deep (fun c hc => (settled_nested n c hc).representable)
      (show (nested n).text.utf8ByteSize ≤ limits.maxJsonBytes from utf8ByteSize_nested n ▸ hsize)
      (by rwa [Tree.leafCount, leaves_nested]) (depth_nested n ▸ hdepth)
  refine ⟨depth_nested 5, ?_, depth_nested 64, ?_⟩
  · exact (hdeep 5 ⟨65536, 200, 5⟩ (by decide) (by decide) (by decide)).1
  · exact (hdeep 64 Limits.standard (by decide) (by decide) (by decide)).2 (by decide)

/-- A filter that is deeper than the limit is not always refused for that. -/
theorem not_tooDeep_nested :
    ¬ ∀ (limits : Limits) (t : Filter), (∀ c ∈ t.leaves, c.value.Settled) →
      t.text.utf8ByteSize ≤ limits.maxJsonBytes → t.leafCount ≤ limits.maxConditions →
      limits.maxDepth < t.depth → read limits t.text = .error (.tooDeep limits.maxDepth) := by
  intro hall
  have hsize : (nested 64).text.utf8ByteSize ≤ Limits.standard.maxJsonBytes := by
    rw [utf8ByteSize_nested]
    decide
  have hcount : (nested 64).leafCount ≤ Limits.standard.maxConditions := by
    rw [Tree.leafCount, leaves_nested]
    decide
  have hdepth : Limits.standard.maxDepth < (nested 64).depth := by
    rw [depth_nested]
    decide
  have hread := hall Limits.standard (nested 64) (settled_nested 64) hsize hcount hdepth
  have hnesting : Json.maxNesting < (nested 64).toJson.nesting := by
    have := two_mul_depth_le (nested 64)
    rw [depth_nested] at this
    rw [Json.maxNesting]
    omega
  have htext : ofText (nested 64).text = .error .notJson := by
    rw [ofText_text_eq fun c hc => (settled_nested 64 c hc).representable, if_pos hnesting]
  rw [read, if_neg (Nat.not_lt.mpr hsize), htext] at hread
  cases hread

end Filter

end RowFilter
