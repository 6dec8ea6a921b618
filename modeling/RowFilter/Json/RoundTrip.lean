import RowFilter.Json.Embedded.Settled
import RowFilter.Json.Nesting
/-!
# Documents that are read back

What is written of a document is read with the same keys and texts, and with other numbers at most.
So whether it can be settled does not change, and it comes back exactly if it was settled, does not
nest too deep, and each of its numbers comes back.

* `Json.RoundTrips`: a document is read back from its text.
* `Json.isSome_settleWith?_reread`: other numbers do not keep a document from being settled.
* `Json.roundTrips_iff`: which documents are read back.
-/
namespace RowFilter.Json

/-- The text of the document is read as the document. -/
def RoundTrips (j : Json) : Prop := ofText? j.text = some j

/-! ## Settling what is read -/

theorem keys_rereadFields (fields : List (String × Json)) :
    keys (rereadFields fields) = keys fields := by
  rw [rereadFields_eq, keys, List.map_map]
  rfl

theorem isEmbedded_rereadFields (fields : List (String × Json)) :
    isEmbedded (rereadFields fields) = isEmbedded fields := by
  rw [isEmbedded_eq, isEmbedded_eq, keys_rereadFields]

theorem embeddedText?_rereadFields (fields : List (String × Json)) :
    embeddedText? (rereadFields fields) = embeddedText? fields := by
  match fields with
  | [] => rfl
  | [(key, j)] => cases j <;> rfl
  | (key, j) :: g :: fields => cases j <;> rfl

/-- Two results are there if both are. -/
theorem isSome_bind₂ {α β γ : Type} (a : Option α) (b : Option β) (g : α → β → γ) :
    (do let x ← a; let y ← b; return g x y : Option γ).isSome = (a.isSome && b.isSome) := by
  cases a <;> cases b <;> rfl

mutual

/-- Whether a document can be settled does not depend on its numbers. -/
theorem isSome_settleWith?_reread (f : String → Option Json) (j : Json) :
    (settleWith? f j.reread).isSome = (settleWith? f j).isSome := by
  cases j with
  | null | bool | int | float | str => rfl
  | arr items =>
    rw [reread, settleWith?, settleWith?, Option.isSome_map, Option.isSome_map,
      isSome_settleItems?_reread]
  | obj fields =>
    rw [reread, settleWith?, settleWith?, isEmbedded_rereadFields, embeddedText?_rereadFields]
    split
    · rfl
    · rw [Option.isSome_map, Option.isSome_map, isSome_settleValues?_reread]

theorem isSome_settleItems?_reread (f : String → Option Json) (items : List Json) :
    (settleItems? f (rereadItems items)).isSome = (settleItems? f items).isSome := by
  cases items with
  | nil => rfl
  | cons j items =>
    rw [rereadItems, settleItems?, settleItems?, isSome_bind₂, isSome_bind₂,
      isSome_settleWith?_reread, isSome_settleItems?_reread]

theorem isSome_settleValues?_reread (f : String → Option Json) (fields : List (String × Json)) :
    (settleValues? f (rereadFields fields)).isSome = (settleValues? f fields).isSome := by
  cases fields with
  | nil => rfl
  | cons v fields =>
    rw [rereadFields, settleValues?, settleValues?, isSome_bind₂, isSome_bind₂,
      isSome_settleWith?_reread, isSome_settleValues?_reread]

end

/-- A property of keys holds of what is read as it does of what was written. -/
theorem EachObject.reread {p : List (String × Json) → Prop}
    (hp : ∀ fields, p fields → p (rereadFields fields)) {j : Json} (h : EachObject p j) :
    EachObject p j.reread := by
  induction h with
  | null => exact .null
  | bool b => exact .bool b
  | int i => exact .int i
  | float x => exact .float (rereadNumber x)
  | str s => exact .str s
  | arr h ih =>
    rw [Json.reread, rereadItems_eq]
    exact .arr (List.forall_mem_map.mpr ih)
  | obj hfields h ih =>
    refine .obj (hp _ hfields) ?_
    rw [rereadFields_eq]
    exact List.forall_mem_map.mpr ih

theorem KeysOnce.reread {j : Json} (h : j.KeysOnce) : j.reread.KeysOnce :=
  EachObject.reread (fun fields hnodup => (keys_rereadFields fields).symm ▸ hnodup) h

theorem EmbedsNone.reread {j : Json} (h : j.EmbedsNone) : j.reread.EmbedsNone :=
  EachObject.reread (fun fields hfirst => (isEmbedded_rereadFields fields).trans hfirst) h

/-! ## Reading back -/

/-- What the text of a document is read as. -/
theorem ofText?_text {j : Json} (hj : j.Representable) (hn : j.nesting ≤ maxNesting) :
    ofText? j.text = j.reread.settle? := by
  rw [ofText?_eq, read?_text hj hn]
  rfl

/-- A document is read back if it is settled, its numbers are read back and it does not nest too
deep, and else it is not. -/
theorem roundTrips_iff {j : Json} :
    j.RoundTrips ↔ j.Settled ∧ j.reread = j ∧ j.nesting ≤ maxNesting := by
  constructor
  · intro h
    have hsettled := settled_of_ofTextWithin? _ _ j h
    have hn : j.nesting ≤ maxNesting := by
      by_contra hdeep
      rw [RoundTrips, ofText?_eq,
        read?_text_eq_none hsettled.representable (Nat.lt_of_not_le hdeep)] at h
      cases h
    rw [RoundTrips, ofText?_text hsettled.representable hn, settle?,
      settleWith?_eq_self ofText? hsettled.keysOnce.reread hsettled.embedsNone.reread] at h
    exact ⟨hsettled, Option.some.inj h, hn⟩
  · rintro ⟨hsettled, hreread, hn⟩
    rw [RoundTrips, ofText?_text hsettled.representable hn, hreread, settle?_eq_self hsettled]

theorem roundTrips_float {x : Binary64} (hx : x.isFinite = true) (h : rereadNumber x = x) :
    RoundTrips (.float x) :=
  roundTrips_iff.mpr ⟨⟨.float hx, .float x, .float x⟩, congrArg Json.float h, Nat.zero_le _⟩

end RowFilter.Json
