import RowFilter.Json.Embedded
/-!
# How deep texts stand within each other

What a reader takes from a text is shorter than the text, and so is every string of the
document it reads. The length of a text therefore bounds how deep texts stand in it.

* `Json.readsWithin_readValue`: what is read has every property that documents inherit from their
  parts.
* `Json.stringsWithin_of_read?`: the strings of a document are shorter than its text.
* `Json.ofText?_eq`: a text is read as the settled form of the document that it writes.
-/
namespace RowFilter.Json

/-- Every string value of the document has at most `n` characters. -/
inductive StringsWithin (n : Nat) : Json → Prop
  | null : StringsWithin n .null
  | bool (b : Bool) : StringsWithin n (.bool b)
  | int (i : Int) : StringsWithin n (.int i)
  | float (x : Binary64) : StringsWithin n (.float x)
  | str {s : String} (h : s.length ≤ n) : StringsWithin n (.str s)
  | arr {items : List Json} (h : ∀ j ∈ items, StringsWithin n j) : StringsWithin n (.arr items)
  | obj {fields : List (String × Json)} (h : ∀ f ∈ fields, StringsWithin n f.2) :
    StringsWithin n (.obj fields)

/-- From at most `n` characters the reader takes what has a property, and leaves no more
than there were. -/
def ReadsWithin {α : Type} (n : Nat) (p : α → Prop) (read : Reader α) : Prop :=
  ∀ ⦃cs : List Char⦄ ⦃a : α⦄ ⦃rest : List Char⦄, cs.length ≤ n → read cs = some (a, rest) →
    rest.length ≤ cs.length ∧ p a

/-! ## Words, strings and numbers -/

theorem length_skipSpace_le (cs : List Char) : (skipSpace cs).length ≤ cs.length :=
  (List.dropWhile_suffix isSpace).length_le

theorem length_of_dropWord? {word cs rest : List Char} (h : dropWord? word cs = some rest) :
    rest.length ≤ cs.length := by
  induction word generalizing cs with
  | nil => cases h; exact Nat.le_refl _
  | cons w word ih =>
    cases cs with
    | nil => cases h
    | cons c cs =>
      rw [dropWord?] at h
      split at h
      · exact Nat.le_succ_of_le (ih h)
      · cases h

/-- A reader that puts one character before what the rest of a string gives. -/
theorem length_of_cons {cs s rest : List Char} {c : Char}
    (ih : ∀ {s rest}, readStringBody cs = some (s, rest) → s.length + rest.length < cs.length)
    (h : (do let (s, cs) ← readStringBody cs; return (c :: s, cs)) = some (s, rest)) :
    s.length + rest.length < cs.length + 1 := by
  simp only [Option.bind_eq_bind, Option.bind_eq_some_iff, Option.pure_def, Option.some.injEq] at h
  obtain ⟨⟨t, cs'⟩, ht, h⟩ := h
  cases h
  have := ih ht
  simp only [List.length_cons]
  omega

theorem length_of_readStringBody {cs s rest : List Char}
    (h : readStringBody cs = some (s, rest)) : s.length + rest.length < cs.length := by
  fun_induction readStringBody cs generalizing s rest with
  | case1 => cases h
  | case2 cs =>
    cases h
    simp
  | case3 a b c d cs ih2 ih1 =>
    rw [Option.bind_eq_bind, Option.bind_eq_some_iff] at h
    obtain ⟨n, -, h⟩ := h
    split at h
    · cases h
    · split at h
      · split at h
        · rw [Option.bind_eq_bind, Option.bind_eq_some_iff] at h
          obtain ⟨m, -, h⟩ := h
          split at h
          · have := length_of_cons ih2 h
            simp only [List.length_cons]
            omega
          · cases h
        · cases h
      · have := length_of_cons ih1 h
        simp only [List.length_cons]
        omega
  | case4 e cs _ ih =>
    rw [Option.bind_eq_bind, Option.bind_eq_some_iff] at h
    obtain ⟨c, -, h⟩ := h
    have := length_of_cons ih h
    simp only [List.length_cons]
    omega
  | case5 => cases h
  | case6 c cs _ _ _ _ ih =>
    have := length_of_cons ih h
    simpa using this

theorem length_of_readString {cs rest : List Char} {s : String}
    (h : readString cs = some (s, rest)) : s.length + rest.length + 1 < cs.length := by
  unfold readString at h
  split at h
  · rename_i cs
    simp only [Option.bind_eq_bind, Option.bind_eq_some_iff, Option.pure_def,
      Option.some.injEq] at h
    obtain ⟨⟨t, cs'⟩, ht, h⟩ := h
    cases h
    have := length_of_readStringBody ht
    simp only [String.length_ofList, List.length_cons]
    omega
  · cases h

theorem length_takeDigits_le (cs : List Char) : (Decimal.takeDigits cs).2.length ≤ cs.length :=
  (List.dropWhile_suffix Char.isDigit).length_le

theorem length_of_takeDigits {cs ds rest : List Char} (h : Decimal.takeDigits cs = (ds, rest)) :
    rest.length ≤ cs.length := by
  have := length_takeDigits_le cs
  rwa [h] at this

theorem length_of_readWhole? {cs ds rest : List Char} (h : readWhole? cs = some (ds, rest)) :
    rest.length ≤ cs.length := by
  unfold readWhole? at h
  split at h
  · cases h
  · cases h
  · rename_i hd
    cases h
    exact length_of_takeDigits hd

theorem length_of_readFraction? {cs rest : List Char} {f : Option (List Char)}
    (h : readFraction? cs = some (f, rest)) : rest.length ≤ cs.length := by
  unfold readFraction? at h
  split at h
  · split at h
    · cases h
    · rename_i hd
      cases h
      exact Nat.le_succ_of_le (length_of_takeDigits hd)
  · cases h
    exact Nat.le_refl _

theorem length_takeSign_le (cs : List Char) : (Decimal.takeSign cs).2.length ≤ cs.length := by
  unfold Decimal.takeSign
  split <;> simp

theorem length_of_readExponent? {cs rest : List Char} {e : Option Int}
    (h : Decimal.readExponent? cs = some (e, rest)) : rest.length ≤ cs.length := by
  unfold Decimal.readExponent? at h
  split at h
  · rename_i c cs
    split at h
    · dsimp only at h
      split at h
      · cases h
      · rename_i hd
        cases h
        have := length_of_takeDigits hd
        have := length_takeSign_le cs
        simp only [List.length_cons]
        omega
    · cases h
      exact Nat.le_refl _
  · cases h
    exact Nat.le_refl _

theorem length_takeMinus_le (cs : List Char) : (takeMinus cs).2.length ≤ cs.length := by
  unfold takeMinus
  split <;> simp

/-- A number that is read has the value of its parts. -/
theorem of_readNumber {cs rest : List Char} {j : Json} (h : readNumber cs = some (j, rest)) :
    rest.length ≤ cs.length ∧ ∃ negative whole fraction exponent,
      ofParts? negative whole fraction exponent = some j := by
  unfold readNumber at h
  simp only [Option.bind_eq_bind, Option.bind_eq_some_iff, Option.pure_def,
    Option.some.injEq] at h
  obtain ⟨⟨_, cs1⟩, h1, ⟨_, cs2⟩, h2, ⟨_, cs3⟩, h3, _, hj, h5⟩ := h
  cases h5
  have h0 := length_takeMinus_le cs
  have h1 := length_of_readWhole? h1
  have h2 := length_of_readFraction? h2
  have h3 := length_of_readExponent? h3
  dsimp only at h2 h3 ⊢
  exact ⟨by omega, _, _, _, _, hj⟩

/-! ## Documents -/

theorem readsWithin_readItems {α : Type} {n : Nat} {p : α → Prop} {item : Reader α} {close : Char}
    (hitem : ReadsWithin n p item) (fuel : Nat) :
    ReadsWithin n (fun as => ∀ a ∈ as, p a) (readItems item close fuel) := by
  induction fuel with
  | zero =>
    intro cs as rest _ h
    cases h
  | succ fuel ih =>
    intro cs as rest hn h
    rw [readItems] at h
    simp only [Option.bind_eq_bind, Option.bind_eq_some_iff] at h
    obtain ⟨⟨a, cs1⟩, ha, h⟩ := h
    have hskip := length_skipSpace_le cs
    obtain ⟨hle, hp⟩ := hitem (by omega) ha
    have hskip1 := length_skipSpace_le cs1
    dsimp only at h
    split at h
    · rename_i cs2 hcs2
      rw [hcs2, List.length_cons] at hskip1
      simp only [Option.bind_eq_some_iff, Option.pure_def, Option.some.injEq] at h
      obtain ⟨⟨bs, cs3⟩, hb, h⟩ := h
      cases h
      obtain ⟨hle', hps⟩ := ih (by omega) hb
      dsimp only
      exact ⟨by omega, List.forall_mem_cons.2 ⟨hp, hps⟩⟩
    · rename_i c cs2 _ hcs2
      rw [hcs2, List.length_cons] at hskip1
      split at h
      · cases h
        exact ⟨by omega, fun b hb => by rwa [List.mem_singleton.1 hb]⟩
      · cases h
    · cases h

theorem readsWithin_readSequence {α : Type} {n : Nat} {p : α → Prop} {item : Reader α}
    {close : Char} {limit : Nat} (hitem : ReadsWithin n p item) :
    ReadsWithin n (fun as => ∀ a ∈ as, p a) (readSequence item close limit) := by
  intro cs as rest hn h
  unfold readSequence at h
  have hskip := length_skipSpace_le cs
  split at h
  · cases h
  · rename_i c cs1 hcs1
    rw [hcs1] at hskip
    split at h
    · cases h
      exact ⟨by simp only [List.length_cons] at hskip; omega, fun a ha => nomatch ha⟩
    · obtain ⟨hle, hp⟩ := readsWithin_readItems hitem limit (by omega) h
      exact ⟨by omega, hp⟩

theorem readsWithin_readField {n : Nat} {p : Json → Prop} {value : Reader Json}
    (hvalue : ReadsWithin n p value) : ReadsWithin n (fun f => p f.2) (readField value) := by
  intro cs f rest hn h
  unfold readField at h
  simp only [Option.bind_eq_bind, Option.bind_eq_some_iff] at h
  obtain ⟨⟨key, cs1⟩, hkey, h⟩ := h
  have hle := length_of_readString hkey
  have hskip := length_skipSpace_le cs1
  dsimp only at h
  split at h
  · rename_i cs2 hcs2
    rw [hcs2, List.length_cons] at hskip
    simp only [Option.bind_eq_some_iff, Option.pure_def, Option.some.injEq] at h
    obtain ⟨⟨v, cs3⟩, hv, h⟩ := h
    cases h
    have hskip2 := length_skipSpace_le cs2
    obtain ⟨hle', hp⟩ := hvalue (by omega) hv
    dsimp only
    exact ⟨by omega, hp⟩
  · cases h

theorem readsWithin_dropWord? {n : Nat} {p : Json → Prop} {word : List Char} {j : Json}
    (hj : p j) : ReadsWithin n p fun cs => (dropWord? word cs).map fun cs => (j, cs) := by
  intro cs a rest _ h
  obtain ⟨cs', hcs, h⟩ := Option.map_eq_some_iff.1 h
  cases h
  exact ⟨length_of_dropWord? hcs, hj⟩

/-- A property that a document has if its parts have it, its strings being of at most `n`
characters and its numbers such as can be read. -/
structure Inherited (n : Nat) (p : Json → Prop) : Prop where
  null : p .null
  bool : ∀ b, p (.bool b)
  number : ∀ {negative whole fraction exponent j},
    ofParts? negative whole fraction exponent = some j → p j
  str : ∀ {s : String}, s.length ≤ n → p (.str s)
  arr : ∀ {items}, (∀ j ∈ items, p j) → p (.arr items)
  obj : ∀ {fields : List (String × Json)}, (∀ f ∈ fields, p f.2) → p (.obj fields)

/-- What is read has every property that documents inherit from their parts; the strings of a
document are shorter than the text it is read from. -/
theorem readsWithin_readValue {n limit : Nat} {p : Json → Prop} (hp : Inherited n p) (depth : Nat) :
    ReadsWithin (n + 1) p (readValue limit depth) := by
  intro cs j rest hn h
  unfold readValue at h
  split at h
  · cases h
  · split at h
    · cases h
    · rename_i depth
      obtain ⟨⟨items, cs'⟩, hitems, h⟩ := Option.map_eq_some_iff.1 h
      cases h
      obtain ⟨hle, hall⟩ :=
        readsWithin_readSequence (readsWithin_readValue hp depth) (Nat.le_of_succ_le hn) hitems
      exact ⟨Nat.le_succ_of_le hle, hp.arr hall⟩
  · split at h
    · cases h
    · rename_i depth
      obtain ⟨⟨fields, cs'⟩, hfields, h⟩ := Option.map_eq_some_iff.1 h
      cases h
      obtain ⟨hle, hall⟩ := readsWithin_readSequence
        (readsWithin_readField (readsWithin_readValue hp depth)) (Nat.le_of_succ_le hn) hfields
      exact ⟨Nat.le_succ_of_le hle, hp.obj hall⟩
  · obtain ⟨⟨s, cs'⟩, hs, h⟩ := Option.map_eq_some_iff.1 h
    cases h
    have := length_of_readString hs
    exact ⟨by omega, hp.str (by omega)⟩
  · obtain ⟨hle, hj⟩ := readsWithin_dropWord? hp.null (Nat.le_of_succ_le hn) h
    exact ⟨Nat.le_succ_of_le hle, hj⟩
  · obtain ⟨hle, hj⟩ := readsWithin_dropWord? (hp.bool true) (Nat.le_of_succ_le hn) h
    exact ⟨Nat.le_succ_of_le hle, hj⟩
  · obtain ⟨hle, hj⟩ := readsWithin_dropWord? (hp.bool false) (Nat.le_of_succ_le hn) h
    exact ⟨Nat.le_succ_of_le hle, hj⟩
  · obtain ⟨hle, _, _, _, _, hj⟩ := of_readNumber h
    exact ⟨hle, hp.number hj⟩

theorem inherits_of_read? {n : Nat} {p : Json → Prop} (hp : Inherited n p) {text : String}
    {j : Json} {rest : List Char} (hn : text.length ≤ n + 1) (h : read? text = some (j, rest)) :
    p j := by
  have hskip := length_skipSpace_le text.toList
  rw [String.length_toList] at hskip
  exact (readsWithin_readValue hp maxNesting (by omega) h).2

theorem inherited_stringsWithin (n : Nat) : Inherited n (StringsWithin n) where
  null := .null
  bool := .bool
  number h := by
    unfold ofParts? at h
    extract_lets digits value at h
    split at h
    · cases h
      exact .int _
    · split at h
      · cases h
        exact .float _
      · cases h
  str := .str
  arr := .arr
  obj := .obj

theorem stringsWithin_of_read? {n : Nat} {text : String} {j : Json} {rest : List Char}
    (hn : text.length ≤ n + 1) (h : read? text = some (j, rest)) : StringsWithin n j :=
  inherits_of_read? (inherited_stringsWithin n) hn h

/-! ## Settling -/

mutual

/-- Only the texts that a document holds are read where it is settled. -/
theorem settleWith?_congr {n : Nat} {f g : String → Option Json}
    (hfg : ∀ s : String, s.length ≤ n → f s = g s) {j : Json} (h : StringsWithin n j) :
    settleWith? f j = settleWith? g j := by
  cases h with
  | null | bool | int | float | str => rfl
  | arr h =>
    rw [settleWith?, settleWith?, settleItems?_congr hfg h]
  | @obj fields h =>
    rw [settleWith?, settleWith?, settleValues?_congr hfg h]
    have htext : ∀ text ∈ embeddedText? fields, f text = g text := by
      unfold embeddedText?
      split
      · rename_i key text
        rintro _ ⟨⟩
        cases h (key, .str text) List.mem_cons_self with
        | str hs => exact hfg text hs
      · exact fun text ht => nomatch ht
    cases ht : embeddedText? fields with
    | none => rfl
    | some text => rw [Option.bind_some, Option.bind_some, htext text ht]

theorem settleItems?_congr {n : Nat} {f g : String → Option Json}
    (hfg : ∀ s : String, s.length ≤ n → f s = g s) {items : List Json}
    (h : ∀ j ∈ items, StringsWithin n j) : settleItems? f items = settleItems? g items := by
  cases items with
  | nil => rfl
  | cons j items =>
    rw [settleItems?, settleItems?, settleWith?_congr hfg (h j List.mem_cons_self),
      settleItems?_congr hfg fun j hj => h j (List.mem_cons_of_mem _ hj)]

theorem settleValues?_congr {n : Nat} {f g : String → Option Json}
    (hfg : ∀ s : String, s.length ≤ n → f s = g s) {fields : List (String × Json)}
    (h : ∀ v ∈ fields, StringsWithin n v.2) : settleValues? f fields = settleValues? g fields := by
  cases fields with
  | nil => rfl
  | cons v fields =>
    rw [settleValues?, settleValues?, settleWith?_congr hfg (h v List.mem_cons_self),
      settleValues?_congr hfg fun v hv => h v (List.mem_cons_of_mem _ hv)]

end

theorem ofTextWithin?_eq_of_length_le {n : Nat} {text : String} (h : text.length ≤ n)
    {c d : Nat} (hc : n ≤ c) (hd : n ≤ d) : ofTextWithin? c text = ofTextWithin? d text := by
  induction n generalizing text c d with
  | zero =>
    have htext : text = "" := String.length_eq_zero_iff.1 (Nat.le_zero.1 h)
    have hnone (k : Nat) : ofTextWithin? k "" = none := by cases k <;> rfl
    rw [htext, hnone, hnone]
  | succ n ih =>
    obtain ⟨c, rfl⟩ := Nat.exists_eq_add_of_le' (Nat.le_trans (Nat.le_add_left 1 n) hc)
    obtain ⟨d, rfl⟩ := Nat.exists_eq_add_of_le' (Nat.le_trans (Nat.le_add_left 1 n) hd)
    rw [ofTextWithin?, ofTextWithin?]
    cases hr : read? text with
    | none => rfl
    | some r =>
      have hcd (s : String) (hs : s.length ≤ n) : ofTextWithin? c s = ofTextWithin? d s :=
        ih hs (Nat.le_of_succ_le_succ hc) (Nat.le_of_succ_le_succ hd)
      dsimp only
      rw [settleWith?_congr hcd (stringsWithin_of_read? h hr)]

/-- The bound on the depth that the length of a text gives is no restriction. -/
theorem ofTextWithin?_eq {depth : Nat} {text : String} (h : text.length ≤ depth) :
    ofTextWithin? depth text = ofText? text :=
  ofTextWithin?_eq_of_length_le (Nat.le_refl _) h (Nat.le_refl _)

/-- A text is read as the settled form of the document that it writes. -/
theorem ofText?_eq (text : String) :
    ofText? text =
      (read? text).bind fun (j, rest) => if isEnd rest then j.settle? else none := by
  rw [← ofTextWithin?_eq (Nat.le_succ text.length), ofTextWithin?]
  cases hr : read? text with
  | none => rfl
  | some r =>
    dsimp only
    rw [settleWith?_congr (fun _ => ofTextWithin?_eq)
      (stringsWithin_of_read? (Nat.le_succ text.length) hr)]
    rfl

end RowFilter.Json
