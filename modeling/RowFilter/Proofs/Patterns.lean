import Mathlib.Data.List.Infix
import RowFilter.Text.Like
/-!
# What patterns match

A reader of the patterns of LIKE with the escape character `\` and a matcher of texts against
them. `%` matches any run of characters, `_` any one, a character after a backslash itself and
every other character itself, up to a folding of letters. The pattern of a text matches the texts
that contain it: nothing in the text keeps a meaning of its own, whatever backslashes, percent
signs and underscores it mixes.

Results:
* `escapeChars_eq_protect`: escaping in one pass is protecting backslashes, percent signs and
  underscores one after the other, in this order.
* `parts?_escapeChars_append`: an escaped text is read as its characters.
* `admits_literal`, `admits_anywhere`: what a text and a text between two runs match.
* `like?_containsPattern`: the pattern of a text matches what contains the text.
-/
namespace RowFilter.Text.Like

/-! ## Reading and matching patterns -/

/-- What one place of a pattern stands for. -/
inductive Part
  | run
  | one
  | char (c : Char)
  deriving DecidableEq, Repr

/-- What a character that no backslash protects stands for. -/
def Part.ofChar (c : Char) : Part :=
  if c = '%' then run else if c = '_' then one else char c

/-- The parts of a pattern. A backslash at the end protects nothing: there are none then. -/
def parts? : List Char → Option (List Part)
  | [] => some []
  | c :: cs =>
    if c = '\\' then
      match cs with
      | [] => none
      | d :: cs => (parts? cs).map (Part.char d :: ·)
    else (parts? cs).map (Part.ofChar c :: ·)

/-- Whether the parts match the characters, letters compared through `fold`. -/
def admits (fold : Char → Char) : List Part → List Char → Bool
  | [], cs => cs.isEmpty
  | .run :: ps, cs => cs.tails.any (admits fold ps)
  | .one :: ps, cs => !cs.isEmpty && admits fold ps cs.tail
  | .char p :: ps, cs => some (fold p) == cs.head?.map fold && admits fold ps cs.tail

/-- Whether a text is like a pattern, if the pattern can be read. -/
def like? (fold : Char → Char) (pattern text : String) : Option Bool :=
  (parts? pattern.toList).map (admits fold · text.toList)

/-- The folding leaves the characters with a meaning alone and maps no other to them. -/
def KeepsSpecial (fold : Char → Char) : Prop :=
  ∀ c w, isSpecial w → (fold c = w ↔ c = w)

/-! ## Escaping -/

/-- A backslash before every `w`. -/
def protect (w : Char) (cs : List Char) : List Char :=
  cs.flatMap fun c => if c = w then ['\\', c] else [c]

@[simp] theorem protect_nil (w : Char) : protect w [] = [] := rfl

@[simp] theorem protect_cons (w c : Char) (cs : List Char) :
    protect w (c :: cs) = (if c = w then ['\\', c] else [c]) ++ protect w cs := rfl

/-- The backslashes of a later step are not protected again, since backslashes come first. -/
theorem escapeChars_eq_protect (cs : List Char) :
    escapeChars cs = protect '_' (protect '%' (protect '\\' cs)) := by
  induction cs with
  | nil => rfl
  | cons c cs ih =>
    rw [escapeChars, ih]
    by_cases hb : c = '\\'
    · simp [hb, isSpecial]
    · by_cases hp : c = '%'
      · simp [hp, isSpecial]
      · by_cases hu : c = '_' <;> simp [hb, hp, hu, isSpecial]

/-- Protecting the characters with a meaning comes to the same before folding and after. -/
theorem escapeChars_map {fold : Char → Char} (hf : KeepsSpecial fold) (cs : List Char) :
    (escapeChars cs).map fold = escapeChars (cs.map fold) := by
  have special (c : Char) : isSpecial (fold c) = isSpecial c := by
    simp only [isSpecial, hf c '\\' rfl, hf c '%' rfl, hf c '_' rfl]
  induction cs with
  | nil => rfl
  | cons c cs ih =>
    have hb : fold '\\' = '\\' := (hf '\\' '\\' rfl).mpr rfl
    rw [List.map_cons, escapeChars, escapeChars, special]
    split <;> simp [hb, ih]

/-! ## What an escaped text is read as -/

theorem Part.ofChar_of_not_special {c : Char} (h : isSpecial c = false) : ofChar c = .char c := by
  simp only [isSpecial, Bool.or_eq_false_iff, decide_eq_false_iff_not] at h
  rw [ofChar, if_neg h.1.2, if_neg h.2]

/-- A character other than a backslash is a part on its own. -/
theorem parts?_cons_of_ne {c : Char} (h : c ≠ '\\') (cs : List Char) :
    parts? (c :: cs) = (parts? cs).map (Part.ofChar c :: ·) := by
  rw [parts?.eq_def]
  exact if_neg h

theorem parts?_escapeChars_append (cs rest : List Char) :
    parts? (escapeChars cs ++ rest) = (parts? rest).map (cs.map Part.char ++ ·) := by
  induction cs with
  | nil => simp [escapeChars]
  | cons c cs ih =>
    by_cases h : isSpecial c = true
    · simp [escapeChars, h, parts?, ih, Function.comp_def]
    · have hb : c ≠ '\\' := by rintro rfl; exact h rfl
      rw [Bool.not_eq_true] at h
      simp [escapeChars, h, parts?_cons_of_ne hb, Part.ofChar_of_not_special h, ih,
        Function.comp_def]

theorem toList_containsPattern (s : String) :
    (containsPattern s).toList = '%' :: (escapeChars s.toList ++ ['%']) := by
  simp [containsPattern, escape]

/-- Any run, the characters of the text, any run: no backslash is left over and no character of
the text is read as anything but itself. -/
theorem parts?_containsPattern (s : String) :
    parts? (containsPattern s).toList = some (.run :: (s.toList.map .char ++ [.run])) := by
  have first (cs : List Char) : parts? ('%' :: cs) = (parts? cs).map (Part.run :: ·) :=
    parts?_cons_of_ne (by decide) cs
  rw [toList_containsPattern, first, parts?_escapeChars_append, first]
  rfl

/-! ## What texts match -/

/-- The last run matches what is left. -/
@[simp] theorem admits_run_nil (fold : Char → Char) (cs : List Char) :
    admits fold [.run] cs = true := by
  rw [admits, List.any_eq_true]
  exact ⟨[], by simp, rfl⟩

theorem admits_run_iff {fold : Char → Char} {ps : List Part} {cs : List Char} :
    admits fold (.run :: ps) cs ↔ ∃ rest, rest <:+ cs ∧ admits fold ps rest := by
  rw [admits, List.any_eq_true]
  simp only [List.mem_tails]

/-- The text with any run after it matches what begins with the text. -/
theorem admits_literal {fold : Char → Char} {ss cs : List Char} :
    admits fold (ss.map .char ++ [.run]) cs ↔ ss.map fold <+: cs.map fold := by
  induction ss generalizing cs with
  | nil => simp
  | cons s ss ih =>
    cases cs with
    | nil => simp [admits]
    | cons c cs => simp [admits, List.cons_prefix_cons, ih]

/-- The text between two runs matches what contains the text. -/
theorem admits_anywhere {fold : Char → Char} {ss cs : List Char} :
    admits fold (.run :: (ss.map .char ++ [.run])) cs ↔ ss.map fold <:+: cs.map fold := by
  simp only [admits_run_iff, admits_literal]
  constructor
  · rintro ⟨rest, hrest, h⟩
    exact h.isInfix.trans (hrest.map fold).isInfix
  · intro h
    obtain ⟨front, hfront, hcs⟩ := List.infix_iff_prefix_suffix.mp h
    obtain ⟨rest, hrest, rfl⟩ := List.suffix_map_iff.mp hcs
    exact ⟨rest, hrest, hfront⟩

/-- A text is like the pattern of `s` iff `s` is somewhere in it, both folded. The pattern is
that of the three steps of protecting, and it is read as the characters of `s` between two runs.
A database that folds pattern and text before it compares them finds the same. -/
theorem like?_containsPattern (fold : Char → Char) (hf : KeepsSpecial fold) (s t : String) :
    (containsPattern s).toList
        = '%' :: (protect '_' (protect '%' (protect '\\' s.toList)) ++ ['%'])
      ∧ parts? (containsPattern s).toList = some (.run :: (s.toList.map .char ++ [.run]))
      ∧ like? fold (containsPattern s) t
        = some (decide (s.toList.map fold <:+: t.toList.map fold))
      ∧ like? id ((containsPattern s).map fold) (t.map fold) = like? fold (containsPattern s) t := by
  have hlike (fold : Char → Char) (s t : String) : like? fold (containsPattern s) t
      = some (decide (s.toList.map fold <:+: t.toList.map fold)) := by
    rw [like?, parts?_containsPattern, Option.map_some, Option.some_inj, Bool.eq_iff_iff,
      decide_eq_true_iff, admits_anywhere]
  have hfolded : (containsPattern s).map fold = containsPattern (s.map fold) := by
    have hrun : fold '%' = '%' := (hf '%' '%' rfl).mpr rfl
    rw [← String.toList_inj, String.toList_map, toList_containsPattern, toList_containsPattern,
      String.toList_map]
    simp [hrun, escapeChars_map hf]
  refine ⟨?_, parts?_containsPattern s, hlike fold s t, ?_⟩
  · rw [toList_containsPattern, escapeChars_eq_protect]
  · rw [hfolded, hlike, hlike]
    simp

/-- Folding capital ASCII letters, as SQLite does, touches no character with a meaning. -/
theorem keepsSpecial_toLower : KeepsSpecial Char.toLower := by
  intro c w hw
  have hw' : w = '\\' ∨ w = '%' ∨ w = '_' := by simpa [isSpecial, or_assoc] using hw
  by_cases hc : 'A'.val ≤ c.val ∧ c.val ≤ 'Z'.val
  · have h65 : 65 ≤ c.val.toNat := hc.1
    have h90 : c.val.toNat ≤ 90 := hc.2
    have hval : (c.toLower).val.toNat = c.val.toNat + 32 := by
      unfold Char.toLower
      rw [dif_pos hc]
      exact (UInt32.toNat_add ..).trans (Nat.mod_eq_of_lt (by change _ + 32 < 2 ^ 32; omega))
    -- A capital is in 65 to 90, its small letter in 97 to 122, and no `w` is in either.
    have hne (u : Char) (hu : u.val.toNat < 65 ∨ 90 < u.val.toNat ∧ u.val.toNat < 97) :
        c.toLower ≠ u ∧ c ≠ u := by
      constructor <;> rintro rfl <;> omega
    have hout : w.val.toNat < 65 ∨ 90 < w.val.toNat ∧ w.val.toNat < 97 := by
      obtain rfl | rfl | rfl := hw' <;> decide
    exact iff_of_false (hne w hout).1 (hne w hout).2
  · have hlower : c.toLower = c := dif_neg hc
    rw [hlower]

/-- A path with its letters in either case, found in a longer one. -/
theorem like?_containsPattern_path :
    KeepsSpecial Char.toLower
      ∧ like? Char.toLower (containsPattern "C:\\50%_Off") "see c:\\50%_OFF today" = some true
      ∧ like? Char.toLower (containsPattern "C:\\50%_Off") "see c:\\505_OFF today" = some false := by
  refine ⟨keepsSpecial_toLower, ?_, ?_⟩
  · rw [(like?_containsPattern Char.toLower keepsSpecial_toLower _ _).2.2.1]
    decide
  · rw [(like?_containsPattern Char.toLower keepsSpecial_toLower _ _).2.2.1]
    decide

end RowFilter.Text.Like
