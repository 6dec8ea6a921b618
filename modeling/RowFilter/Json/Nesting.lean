import RowFilter.Json.Embedded.Lemmas
import RowFilter.Json.Writer.Lemmas
/-!
# How deep documents nest that are read

How deep a reader goes decides whether a document is read, and has no part in what is read: one
that goes deeper reads the same and leaves the same. What is read nests no deeper than the reader
goes, so that a written document that nests deeper is not read at all.

* `readValue_restricts`: what is read within a depth is read within any greater one, and nests no
  deeper.
* `nesting_le_of_read?`: the nesting of a document that was read from a text.
* `read?_text_eq_none`: what is written of a document that nests too deep is no document.
-/
namespace RowFilter.Json

section

variable {α : Type} {item item' : Reader α} {p : α → Prop}

/-- What the first reader takes the second takes too, and it has a property. -/
def Restricts (item item' : Reader α) (p : α → Prop) : Prop :=
  ∀ ⦃cs : List Char⦄ ⦃a : α⦄ ⦃rest : List Char⦄, item cs = some (a, rest) →
    item' cs = some (a, rest) ∧ p a

theorem readItems_restricts {close : Char} (h : Restricts item item' p) (fuel : Nat) :
    Restricts (readItems item close fuel) (readItems item' close fuel)
      fun as => ∀ a ∈ as, p a := by
  induction fuel with
  | zero =>
    intro cs as rest hread
    cases hread
  | succ fuel ih =>
    intro cs as rest hread
    rw [readItems] at hread ⊢
    simp only [Option.bind_eq_bind, Option.bind_eq_some_iff] at hread
    obtain ⟨⟨a, cs1⟩, ha, hread⟩ := hread
    obtain ⟨ha', hp⟩ := h ha
    rw [ha', Option.bind_eq_bind, Option.bind_some]
    dsimp only at hread ⊢
    split at hread
    · -- a comma: the other items are taken from what follows it
      simp only [Option.bind_eq_some_iff, Option.pure_def, Option.some.injEq] at hread
      obtain ⟨⟨bs, cs2⟩, hbs, hread⟩ := hread
      obtain ⟨hbs', hps⟩ := ih hbs
      cases hread
      rw [hbs']
      exact ⟨rfl, List.forall_mem_cons.mpr ⟨hp, hps⟩⟩
    · split at hread
      · rename_i hclose
        cases hread
        rw [if_pos hclose]
        exact ⟨rfl, List.forall_mem_singleton.mpr hp⟩
      · cases hread
    · cases hread

theorem readSequence_restricts {close : Char} {limit : Nat} (h : Restricts item item' p) :
    Restricts (readSequence item close limit) (readSequence item' close limit)
      fun as => ∀ a ∈ as, p a := by
  intro cs as rest hread
  unfold readSequence at hread ⊢
  split at hread
  · cases hread
  · split at hread
    · rename_i hclose
      cases hread
      exact ⟨if_pos hclose, fun a ha => nomatch ha⟩
    · rename_i hclose
      rw [if_neg hclose]
      exact readItems_restricts h limit hread

end

theorem readField_restricts {value value' : Reader Json} {p : Json → Prop}
    (h : Restricts value value' p) :
    Restricts (readField value) (readField value') fun f => p f.2 := by
  intro cs f rest hread
  unfold readField at hread ⊢
  simp only [Option.bind_eq_bind, Option.bind_eq_some_iff] at hread
  obtain ⟨⟨key, cs1⟩, hkey, hread⟩ := hread
  rw [hkey, Option.bind_eq_bind, Option.bind_some]
  dsimp only at hread ⊢
  split at hread
  · simp only [Option.bind_eq_some_iff, Option.pure_def, Option.some.injEq] at hread
    obtain ⟨⟨v, cs2⟩, hv, hread⟩ := hread
    obtain ⟨hv', hp⟩ := h hv
    cases hread
    rw [Option.bind_eq_bind, hv']
    exact ⟨rfl, hp⟩
  · cases hread

theorem itemsNesting_le {items : List Json} {n : Nat} (h : ∀ j ∈ items, j.nesting ≤ n) :
    itemsNesting items ≤ n := by
  induction items with
  | nil => exact Nat.zero_le n
  | cons j items ih =>
    obtain ⟨hj, hitems⟩ := List.forall_mem_cons.mp h
    exact Nat.max_le.mpr ⟨hj, ih hitems⟩

theorem fieldsNesting_le {fields : List (String × Json)} {n : Nat}
    (h : ∀ f ∈ fields, f.2.nesting ≤ n) : fieldsNesting fields ≤ n := by
  induction fields with
  | nil => exact Nat.zero_le n
  | cons f fields ih =>
    obtain ⟨hf, hfields⟩ := List.forall_mem_cons.mp h
    exact Nat.max_le.mpr ⟨hf, ih hfields⟩

/-- A number does not nest. -/
theorem nesting_of_readNumber {cs rest : List Char} {j : Json}
    (h : readNumber cs = some (j, rest)) : j.nesting = 0 := by
  obtain ⟨-, negative, whole, fraction, exponent, hj⟩ := of_readNumber h
  unfold ofParts? at hj
  extract_lets digits value at hj
  split at hj
  · cases hj; rfl
  · split at hj
    · cases hj; rfl
    · cases hj

/-- What is read within a depth is read within any greater one, and nests no deeper. -/
theorem readValue_restricts (limit : Nat) {depth depth' : Nat} (hdepth : depth ≤ depth') :
    Restricts (readValue limit depth) (readValue limit depth') fun j => j.nesting ≤ depth := by
  intro cs j rest h
  unfold readValue at h
  split at h
  · cases h
  · split at h
    · cases h
    · rename_i depth
      obtain ⟨depth', rfl⟩ :=
        Nat.exists_eq_add_of_le' (Nat.le_trans (Nat.le_add_left 1 depth) hdepth)
      obtain ⟨⟨items, cs'⟩, hitems, h⟩ := Option.map_eq_some_iff.mp h
      cases h
      obtain ⟨hread, hall⟩ := readSequence_restricts
        (readValue_restricts limit (Nat.le_of_succ_le_succ hdepth)) hitems
      have hn : (Json.arr items).nesting ≤ depth + 1 := by
        rw [nesting, Nat.add_comm]
        exact Nat.succ_le_succ (itemsNesting_le hall)
      rw [readValue, hread]
      exact ⟨rfl, hn⟩
  · split at h
    · cases h
    · rename_i depth
      obtain ⟨depth', rfl⟩ :=
        Nat.exists_eq_add_of_le' (Nat.le_trans (Nat.le_add_left 1 depth) hdepth)
      obtain ⟨⟨fields, cs'⟩, hfields, h⟩ := Option.map_eq_some_iff.mp h
      cases h
      obtain ⟨hread, hall⟩ := readSequence_restricts
        (readField_restricts (readValue_restricts limit (Nat.le_of_succ_le_succ hdepth))) hfields
      have hn : (Json.obj fields).nesting ≤ depth + 1 := by
        rw [nesting, Nat.add_comm]
        exact Nat.succ_le_succ (fieldsNesting_le hall)
      rw [readValue, hread]
      exact ⟨rfl, hn⟩
  · obtain ⟨⟨s, cs'⟩, hs, h'⟩ := Option.map_eq_some_iff.mp h
    cases h'
    rw [readValue]
    exact ⟨h, Nat.zero_le depth⟩
  iterate 3
    obtain ⟨cs', hcs, h'⟩ := Option.map_eq_some_iff.mp h
    cases h'
    rw [readValue]
    exact ⟨h, Nat.zero_le depth⟩
  · have hread : readValue limit depth' cs = readNumber cs := by
      rw [readValue] <;> assumption
    exact ⟨hread.trans h, (nesting_of_readNumber h).trans_le (Nat.zero_le depth)⟩

/-- A document that was read nests no deeper than the reader goes. -/
theorem nesting_le_of_read? {text : String} {j : Json} {rest : List Char}
    (h : read? text = some (j, rest)) : j.nesting ≤ maxNesting :=
  (readValue_restricts text.toList.length (Nat.le_refl maxNesting) h).2

mutual

/-- Numbers have no part in the nesting. -/
theorem nesting_reread (j : Json) : j.reread.nesting = j.nesting := by
  cases j with
  | null | bool | int | float | str => rfl
  | arr items => rw [reread, nesting, nesting, itemsNesting_reread]
  | obj fields => rw [reread, nesting, nesting, fieldsNesting_reread]

theorem itemsNesting_reread (items : List Json) :
    itemsNesting (rereadItems items) = itemsNesting items := by
  cases items with
  | nil => rfl
  | cons j items =>
    rw [rereadItems, itemsNesting, itemsNesting, nesting_reread, itemsNesting_reread]

theorem fieldsNesting_reread (fields : List (String × Json)) :
    fieldsNesting (rereadFields fields) = fieldsNesting fields := by
  cases fields with
  | nil => rfl
  | cons f fields =>
    rw [rereadFields, fieldsNesting, fieldsNesting, nesting_reread, fieldsNesting_reread]

end

/-- What is written of a document that nests too deep is not read. -/
theorem read?_text_eq_none {j : Json} (hj : Representable j) (hn : maxNesting < j.nesting) :
    read? j.text = none := by
  rw [Option.eq_none_iff_forall_ne_some]
  rintro ⟨k, rest⟩ hread
  -- a reader that goes deep enough reads all of the document, so that this would be what was read
  have hback := readValue_chars hj (Nat.le_refl j.nesting) (Nat.le_refl j.chars.length)
  have hskip := hback.starts.skipSpace_append []
  have hself := hback.reads [] fun _ hc => nomatch hc
  rw [List.append_nil] at hskip hself
  rw [read?, text, String.toList_ofList, hskip] at hread
  obtain ⟨hdeep, hk⟩ := readValue_restricts j.chars.length (Nat.le_of_lt hn) hread
  cases hself.symm.trans hdeep
  rw [nesting_reread] at hk
  exact Nat.not_lt.mpr hk hn

end RowFilter.Json
