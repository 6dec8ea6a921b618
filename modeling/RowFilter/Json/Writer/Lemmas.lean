import RowFilter.Json.Writer.Numeral
/-!
# Reading back what was written

A written document is read back from the front of any text that does not go on with it, if its
numbers can be held and it does not nest too deep. Only its numbers may be others then.

* `Json.readString_stringChars`: every string is read back, whatever had to be escaped in it.
* `Json.Representable`: the documents whose numbers can be held.
* `Json.nesting`: how deep arrays and objects stand within each other.
* `Json.reread`: the document with each number as it is read back.
* `Json.read?_text`: the written form of a document is read as that.
-/
namespace RowFilter.Json

/-! ## Strings -/

theorem hex4?_hexDigit : ∀ n < 32,
    hex4? '0' '0' (hexDigit (n / 16)) (hexDigit (n % 16)) = some n := by decide

/-- One character is put before what the rest of a string gives. -/
theorem bind_cons (c : Char) (r : Option (List Char × List Char)) :
    (do let (s, cs) ← r; return (c :: s, cs)) = r.map fun (s, rest) => (c :: s, rest) := by
  cases r <;> rfl

theorem readStringBody_escaped {e c : Char} (h : escaped? e = some c) (cs : List Char) :
    readStringBody ('\\' :: e :: cs)
      = (readStringBody cs).map fun (s, rest) => (c :: s, rest) := by
  have hu : e ≠ 'u' := by
    rintro rfl
    exact nomatch h
  rw [readStringBody, h]
  · exact bind_cons c (readStringBody cs)
  · exact fun _ _ _ _ _ he => absurd he hu

theorem readStringBody_control {c : Char} (h : c.toNat < 0x20) (cs : List Char) :
    readStringBody ('\\' :: 'u' :: '0' :: '0' :: hexDigit (c.toNat / 16) :: hexDigit (c.toNat % 16)
        :: cs)
      = (readStringBody cs).map fun (s, rest) => (c :: s, rest) := by
  have hlow : isLowSurrogate c.toNat = false := by
    simp only [isLowSurrogate, Bool.and_eq_false_iff, decide_eq_false_iff_not]
    omega
  have hhigh : isHighSurrogate c.toNat = false := by
    simp only [isHighSurrogate, Bool.and_eq_false_iff, decide_eq_false_iff_not]
    omega
  rw [readStringBody, hex4?_hexDigit c.toNat h]
  simp only [Option.bind_eq_bind, Option.bind_some, hlow, hhigh, Bool.false_eq_true, if_false,
    Char.ofNat_toNat]
  exact bind_cons c (readStringBody cs)

theorem readStringBody_escapeChar (c : Char) (cs : List Char) :
    readStringBody (escapeChar c ++ cs)
      = (readStringBody cs).map fun (s, rest) => (c :: s, rest) := by
  unfold escapeChar
  split
  iterate 7 exact readStringBody_escaped rfl cs
  rename_i hquote hbackslash _ _ _ _ _
  split
  · rename_i hcontrol
    exact readStringBody_control hcontrol cs
  · rename_i hcontrol
    rw [List.singleton_append, readStringBody, if_neg]
    · exact bind_cons c (readStringBody cs)
    · exact not_or.mpr ⟨hbackslash, hcontrol⟩
    · exact fun he => hquote he
    · exact fun _ _ _ _ _ he => absurd he hbackslash
    · exact fun _ _ he => absurd he hbackslash

theorem readStringBody_flatMap (cs rest : List Char) :
    readStringBody (cs.flatMap escapeChar ++ '"' :: rest) = some (cs, rest) := by
  induction cs with
  | nil => rfl
  | cons c cs ih =>
    rw [List.flatMap_cons, List.append_assoc, readStringBody_escapeChar, ih]
    rfl

theorem readString_stringChars (s : String) (rest : List Char) :
    readString (stringChars s ++ rest) = some (s, rest) := by
  rw [stringChars, List.cons_append, List.append_assoc, List.singleton_append, readString,
    readStringBody_flatMap]
  simp

/-! ## Documents that can be held -/

/-- Integers fit into a word and the other numbers are finite. -/
inductive Representable : Json → Prop
  | null : Representable .null
  | bool (b : Bool) : Representable (.bool b)
  | int {i : Int} (h : inWordRange i = true) : Representable (.int i)
  | float {x : Binary64} (h : x.isFinite = true) : Representable (.float x)
  | str (s : String) : Representable (.str s)
  | arr {items : List Json} (h : ∀ j ∈ items, Representable j) : Representable (.arr items)
  | obj {fields : List (String × Json)} (h : ∀ f ∈ fields, Representable f.2) :
    Representable (.obj fields)

mutual

/-- How deep arrays and objects stand within each other. -/
def nesting : Json → Nat
  | .arr items => 1 + itemsNesting items
  | .obj fields => 1 + fieldsNesting fields
  | _ => 0

def itemsNesting : List Json → Nat
  | [] => 0
  | j :: items => max (nesting j) (itemsNesting items)

def fieldsNesting : List (String × Json) → Nat
  | [] => 0
  | (_, j) :: fields => max (nesting j) (fieldsNesting fields)

end

/-! ## The document that is read -/

mutual

/-- The document that the written form of a document is read as. -/
def reread : Json → Json
  | .float x => .float (rereadNumber x)
  | .arr items => .arr (rereadItems items)
  | .obj fields => .obj (rereadFields fields)
  | j => j

def rereadItems : List Json → List Json
  | [] => []
  | j :: items => reread j :: rereadItems items

def rereadFields : List (String × Json) → List (String × Json)
  | [] => []
  | (key, j) :: fields => (key, reread j) :: rereadFields fields

end

def rereadField (f : String × Json) : String × Json := (f.1, f.2.reread)

theorem rereadItems_eq (items : List Json) : rereadItems items = items.map reread := by
  induction items with
  | nil => rfl
  | cons j items ih => rw [rereadItems, ih, List.map_cons]

theorem rereadFields_eq (fields : List (String × Json)) :
    rereadFields fields = fields.map rereadField := by
  induction fields with
  | nil => rfl
  | cons f fields ih =>
    rw [rereadFields, ih]
    rfl

/-! ## Where a value starts -/

/-- The first character is that of a value. -/
def StartsValue (cs : List Char) : Prop :=
  ∃ c cs', cs = c :: cs' ∧ isSpace c = false ∧ c ≠ ']' ∧ c ≠ '\x7d'

theorem skipSpace_cons {c : Char} (h : isSpace c = false) (cs : List Char) :
    skipSpace (c :: cs) = c :: cs := by
  simp [skipSpace, h]

theorem StartsValue.skipSpace_append {cs : List Char} (h : StartsValue cs) (rest : List Char) :
    skipSpace (cs ++ rest) = cs ++ rest := by
  obtain ⟨c, cs', rfl, hc, -⟩ := h
  exact skipSpace_cons hc _

theorem isSpace_eq_false_of_isDigit {c : Char} (h : c.isDigit = true) : isSpace c = false := by
  simp [isSpace, ne_of_isDigit h]

theorem startsValue_numeral {n : Numeral} (h : n.WellFormed) : StartsValue n.chars := by
  obtain ⟨c, cs, hcs, rfl | hc⟩ := h.chars_eq_cons
  · exact ⟨_, cs, hcs, by decide⟩
  · exact ⟨c, cs, hcs, isSpace_eq_false_of_isDigit hc, ne_of_isDigit hc (by decide),
      ne_of_isDigit hc (by decide)⟩

theorem readValue_numeral {n : Numeral} (h : n.WellFormed) (limit depth : Nat) (rest : List Char) :
    readValue limit depth (n.chars ++ rest) = readNumber (n.chars ++ rest) := by
  obtain ⟨c, cs, hcs, hc⟩ := h.chars_eq_cons
  rw [hcs, List.cons_append]
  have hne {d : Char} (hd : d.isDigit = false) (hd' : d ≠ '-') (cs' : List Char)
      (he : c :: (cs ++ rest) = d :: cs') : False := by
    cases he
    rcases hc with rfl | hc
    · exact hd' rfl
    · rw [hc] at hd
      cases hd
  rw [readValue]
  · exact fun he => nomatch he
  all_goals exact hne (by decide) (by decide)

theorem startsValue_chars {j : Json} (h : Representable j) : StartsValue j.chars := by
  cases h with
  | null | str | arr | obj => exact ⟨_, _, rfl, by decide⟩
  | bool b => cases b <;> exact ⟨_, _, rfl, by decide⟩
  | int h =>
    rw [chars, ← chars_intNumeral]
    exact startsValue_numeral (wellFormed_intNumeral _)
  | float h =>
    rw [chars, ← chars_floatNumeral]
    exact startsValue_numeral (writes_floatNumeral h).wellFormed

/-! ## Sequences -/

/-- Texts between commas, and a closing character. -/
def listing (close : Char) : List (List Char) → List Char
  | [] => [close]
  | [cs] => cs ++ [close]
  | cs :: css => cs ++ ',' :: listing close css

theorem listing_cons_cons (close : Char) (cs ds : List Char) (css : List (List Char)) :
    listing close (cs :: ds :: css) = cs ++ ',' :: listing close (ds :: css) := rfl

theorem length_le_listing {α : Type} (close : Char) (write : α → List Char) {as : List α} {a : α}
    (h : a ∈ as) : (write a).length ≤ (listing close (as.map write)).length := by
  induction as with
  | nil => cases h
  | cons b as ih =>
    cases as with
    | nil =>
      rw [List.mem_singleton.mp h, List.map_singleton, listing, List.length_append]
      exact Nat.le_add_right _ _
    | cons c as =>
      rw [List.map_cons, List.map_cons, listing_cons_cons, List.length_append, List.length_cons]
      rcases List.mem_cons.mp h with rfl | h
      · exact Nat.le_add_right _ _
      · have := ih h
        rw [List.map_cons] at this
        omega

theorem StartsValue.listing {cs : List Char} (h : StartsValue cs) (close : Char)
    (css : List (List Char)) : StartsValue (listing close (cs :: css)) := by
  obtain ⟨c, cs, rfl, hc⟩ := h
  cases css <;> exact ⟨c, _, rfl, hc⟩

/-- What closes an array or an object. -/
def IsClosing (close : Char) : Prop := close = ']' ∨ close = '\x7d'

theorem IsClosing.isSpace_eq_false {close : Char} (h : IsClosing close) :
    isSpace close = false := by
  rcases h with rfl | rfl <;> decide

theorem IsClosing.ne_comma {close : Char} (h : IsClosing close) : close ≠ ',' := by
  rcases h with rfl | rfl <;> decide

theorem endsNumber_cons {c : Char} (h : c.isDigit = false ∧ c ≠ '.' ∧ c ≠ 'e' ∧ c ≠ 'E')
    (cs : List Char) : EndsNumber (c :: cs) := by
  rintro _ ⟨⟩
  exact h

theorem IsClosing.endsNumber {close : Char} (h : IsClosing close) (cs : List Char) :
    EndsNumber (close :: cs) := by
  rcases h with rfl | rfl <;> exact endsNumber_cons (by decide) cs

section

variable {α β : Type} {item : Reader β} {write : α → List Char} {result : α → β} {close : Char}

/-- The reader takes what was written from the front of a text that does not go on with it, and
has its result. -/
structure ReadsBack (item : Reader β) (write : α → List Char) (result : α → β) (a : α) :
    Prop where
  starts : StartsValue (write a)
  reads : ∀ rest, EndsNumber rest → item (write a ++ rest) = some (result a, rest)

theorem readItems_listing (hclose : IsClosing close) {a : α} {as : List α}
    (h : ∀ b ∈ a :: as, ReadsBack item write result b) {fuel : Nat}
    (hfuel : (listing close ((a :: as).map write)).length ≤ fuel) (rest : List Char) :
    readItems item close fuel (listing close ((a :: as).map write) ++ rest)
      = some ((a :: as).map result, rest) := by
  induction as generalizing a fuel with
  | nil =>
    have ha := h a List.mem_cons_self
    have hne := hclose.ne_comma
    rw [List.map_singleton, listing, List.length_append, List.length_singleton] at hfuel
    obtain ⟨fuel, rfl⟩ := Nat.exists_eq_add_of_le' (show 1 ≤ fuel by omega)
    rw [List.map_singleton, listing, List.append_assoc, List.singleton_append, readItems,
      ha.starts.skipSpace_append, ha.reads _ (hclose.endsNumber rest)]
    simp [skipSpace_cons hclose.isSpace_eq_false]
  | cons b as ih =>
    have ha := h a List.mem_cons_self
    rw [List.map_cons, List.map_cons, listing_cons_cons, ← List.map_cons] at hfuel ⊢
    rw [List.length_append, List.length_cons] at hfuel
    obtain ⟨fuel, rfl⟩ := Nat.exists_eq_add_of_le' (show 1 ≤ fuel by omega)
    have hrest := ih (fun c hc => h c (List.mem_cons_of_mem _ hc)) (show _ ≤ fuel by omega)
    rw [List.append_assoc, List.cons_append, readItems, ha.starts.skipSpace_append,
      ha.reads _ (endsNumber_cons (by decide) _)]
    simp only [Option.bind_eq_bind, Option.bind_some,
      skipSpace_cons (by decide : isSpace ',' = false), hrest]
    rfl

/-- A written sequence is read back, if each of its items is. -/
theorem readSequence_listing (hclose : IsClosing close) {as : List α}
    (h : ∀ a ∈ as, ReadsBack item write result a) {limit : Nat}
    (hlimit : (listing close (as.map write)).length ≤ limit) (rest : List Char) :
    readSequence item close limit (listing close (as.map write) ++ rest)
      = some (as.map result, rest) := by
  cases as with
  | nil =>
    rw [List.map_nil, listing, List.singleton_append, readSequence,
      skipSpace_cons hclose.isSpace_eq_false]
    exact if_pos rfl
  | cons a as =>
    have hitems := readItems_listing hclose h hlimit rest
    -- the sequence does not end at once: its first item does not start like a closing character
    obtain ⟨c, cs, hcs, hspace, hbracket, hbrace⟩ := (h a List.mem_cons_self).starts.listing close
      (as.map write)
    rw [List.map_cons, hcs, List.cons_append] at hitems ⊢
    rw [readSequence, skipSpace_cons hspace]
    refine (if_neg ?_).trans hitems
    rcases hclose with rfl | rfl <;> assumption

end

/-! ## Documents -/

theorem itemsChars_eq (items : List Json) : itemsChars items = listing ']' (items.map chars) := by
  induction items with
  | nil => rw [itemsChars]; rfl
  | cons j items ih =>
    cases items with
    | nil => rw [itemsChars]; rfl
    | cons k items =>
      rw [itemsChars, ih]
      · rfl
      · exact nofun

def fieldChars (f : String × Json) : List Char := stringChars f.1 ++ ':' :: f.2.chars

theorem fieldsChars_eq (fields : List (String × Json)) :
    fieldsChars fields = listing '\x7d' (fields.map fieldChars) := by
  induction fields with
  | nil => rw [fieldsChars]; rfl
  | cons f fields ih =>
    cases fields with
    | nil =>
      rw [fieldsChars, List.map_singleton, listing, fieldChars, List.append_assoc, List.cons_append]
    | cons g fields =>
      rw [fieldsChars, ih]
      · exact (List.append_assoc (stringChars f.1) (':' :: f.2.chars) _).symm
      · exact nofun

theorem nesting_le_of_mem_items {items : List Json} {j : Json} (h : j ∈ items) :
    j.nesting ≤ itemsNesting items := by
  induction items with
  | nil => cases h
  | cons i items ih =>
    rw [itemsNesting]
    rcases List.mem_cons.mp h with rfl | h
    · exact Nat.le_max_left _ _
    · exact Nat.le_trans (ih h) (Nat.le_max_right _ _)

theorem nesting_le_of_mem_fields {fields : List (String × Json)} {f : String × Json}
    (h : f ∈ fields) : f.2.nesting ≤ fieldsNesting fields := by
  induction fields with
  | nil => cases h
  | cons g fields ih =>
    rw [fieldsNesting]
    rcases List.mem_cons.mp h with rfl | h
    · exact Nat.le_max_left _ _
    · exact Nat.le_trans (ih h) (Nat.le_max_right _ _)

/-- A field is read back if its value is. -/
theorem readsBack_field {value : Reader Json} {f : String × Json}
    (h : ReadsBack value chars reread f.2) :
    ReadsBack (readField value) fieldChars rereadField f where
  starts := ⟨_, _, rfl, by decide⟩
  reads rest hrest := by
    rw [fieldChars, List.append_assoc, List.cons_append, readField, readString_stringChars]
    simp only [Option.bind_eq_bind, Option.bind_some,
      skipSpace_cons (by decide : isSpace ':' = false), h.starts.skipSpace_append,
      h.reads rest hrest]
    rfl

/-- A written document is read back, if it nests no deeper than the reader goes and no sequence
in it is longer than the limit. -/
theorem readValue_chars {j : Json} (hj : Representable j) {limit depth : Nat}
    (hdepth : j.nesting ≤ depth) (hlimit : j.chars.length ≤ limit) :
    ReadsBack (readValue limit depth) chars reread j := by
  -- the reader recurs on the depth that is left, so this is an induction on it and not on `j`
  induction depth using Nat.strongRecOn generalizing j with
  | ind depth ih =>
    refine ⟨startsValue_chars hj, fun rest hrest => ?_⟩
    cases hj with
    | null =>
      rw [chars, List.cons_append, readValue]
      rfl
    | bool b => cases b <;> rw [chars, List.cons_append, readValue] <;> rfl
    | int h =>
      rw [chars, ← chars_intNumeral, readValue_numeral (wellFormed_intNumeral _),
        chars_intNumeral, readNumber_intChars h hrest]
      rfl
    | float h =>
      rw [chars, ← chars_floatNumeral, readValue_numeral (writes_floatNumeral h).wellFormed,
        chars_floatNumeral, readNumber_textChars h hrest, reread]
    | str s =>
      have hs := readString_stringChars s rest
      rw [chars]
      rw [stringChars, List.cons_append] at hs ⊢
      rw [readValue, hs]
      rfl
    | @arr items h =>
      rw [nesting] at hdepth
      obtain ⟨depth, rfl⟩ := Nat.exists_eq_add_of_le' (Nat.le_trans (Nat.le_add_right 1 _) hdepth)
      rw [chars, itemsChars_eq, List.length_cons] at hlimit
      have hitems : ∀ i ∈ items, ReadsBack (readValue limit depth) chars reread i := fun i hi => by
        have hn := nesting_le_of_mem_items hi
        have hl := length_le_listing ']' chars hi
        exact ih depth (Nat.lt_succ_self depth) (h i hi) (by omega) (by omega)
      rw [chars, itemsChars_eq, List.cons_append, readValue,
        readSequence_listing (.inl rfl) hitems (by omega) rest, reread, rereadItems_eq]
      rfl
    | @obj fields h =>
      rw [nesting] at hdepth
      obtain ⟨depth, rfl⟩ := Nat.exists_eq_add_of_le' (Nat.le_trans (Nat.le_add_right 1 _) hdepth)
      rw [chars, fieldsChars_eq, List.length_cons] at hlimit
      have hfields : ∀ f ∈ fields,
          ReadsBack (readField (readValue limit depth)) fieldChars rereadField f := fun f hf => by
        have hn := nesting_le_of_mem_fields hf
        have hl := length_le_listing '\x7d' fieldChars hf
        rw [fieldChars, List.length_append, List.length_cons] at hl
        exact readsBack_field (ih depth (Nat.lt_succ_self depth) (h f hf) (by omega) (by omega))
      rw [chars, fieldsChars_eq, List.cons_append, readValue,
        readSequence_listing (.inr rfl) hfields (by omega) rest, reread, rereadFields_eq]
      rfl

/-- The written form of a document is read as the document with its numbers read back, and nothing
is left. -/
theorem read?_text {j : Json} (hj : Representable j) (hn : j.nesting ≤ maxNesting) :
    read? j.text = some (j.reread, []) := by
  have hj' := readValue_chars hj hn (Nat.le_refl _)
  have hread := hj'.reads [] fun _ hc => nomatch hc
  have hskip := hj'.starts.skipSpace_append []
  rw [List.append_nil] at hread hskip
  rw [read?, text, String.toList_ofList, hskip, hread]

end RowFilter.Json
