import RowFilter.Text.Blank
/-!
# Texts with blanks in them

Cutting blanks off and splitting at them, read backwards: which texts are cut to a given one, and
which are split into given words.

* `trimChars_eq_iff`: what is cut to a text is the text with blanks around it.
* `isTrimmed_trimChars`: what is cut has no blanks left at its ends.
* `words_eq_iff`: what is split into words is the words with blanks around and between them.
-/
namespace RowFilter.Text

/-- All characters are blanks. -/
def IsGap (cs : List Char) : Prop := ∀ c ∈ cs, isBlank c = true

/-- The characters neither begin nor end with a blank. -/
def IsTrimmed (cs : List Char) : Prop :=
  (∀ c ∈ cs.head?, isBlank c = false) ∧ ∀ c ∈ cs.getLast?, isBlank c = false

theorem IsGap.reverse {cs : List Char} (h : IsGap cs) : IsGap cs.reverse :=
  fun c hc => h c (List.mem_reverse.mp hc)

/-! ## Cutting blanks off -/

theorem skipBlanks_append {g cs : List Char} (hg : IsGap g) :
    skipBlanks (g ++ cs) = skipBlanks cs := List.dropWhile_append_of_pos hg

theorem skipBlanks_of_head {cs : List Char} (h : ∀ c ∈ cs.head?, isBlank c = false) :
    skipBlanks cs = cs := by
  cases cs with
  | nil => rfl
  | cons c cs => exact List.dropWhile_cons_of_neg (by simp [h c rfl])

/-- Nothing but blanks is dropped. -/
theorem exists_skipBlanks (cs : List Char) : ∃ g, IsGap g ∧ cs = g ++ skipBlanks cs :=
  ⟨cs.takeWhile isBlank, fun _ hc => List.all_eq_true.mp List.all_takeWhile _ hc,
    List.takeWhile_append_dropWhile.symm⟩

/-- A text with blanks around it is cut to the text. -/
theorem trimChars_append {a cs b : List Char} (ha : IsGap a) (hcs : IsTrimmed cs) (hb : IsGap b) :
    trimChars (a ++ cs ++ b) = cs := by
  rw [trimChars, List.append_assoc, skipBlanks_append ha]
  cases cs with
  | nil =>
    have hnil : skipBlanks (b ++ []) = [] := skipBlanks_append hb
    rw [List.nil_append, ← List.append_nil b, hnil]
    rfl
  | cons c cs =>
    have hhead : ∀ d ∈ ((c :: cs) ++ b).head?, isBlank d = false := hcs.1
    rw [skipBlanks_of_head hhead, List.reverse_append, skipBlanks_append hb.reverse,
      skipBlanks_of_head (List.head?_reverse ▸ hcs.2), List.reverse_reverse]

/-- What is cut to a text is the text with blanks around it. -/
theorem trimChars_eq_iff {cs name : List Char} (hname : IsTrimmed name) :
    trimChars cs = name ↔ ∃ a b, IsGap a ∧ IsGap b ∧ cs = a ++ name ++ b := by
  constructor
  · rintro rfl
    obtain ⟨a, ha, hcs⟩ := exists_skipBlanks cs
    obtain ⟨b, hb, hrev⟩ := exists_skipBlanks (skipBlanks cs).reverse
    refine ⟨a, b.reverse, ha, hb.reverse, ?_⟩
    have hend := congrArg List.reverse hrev
    rw [List.reverse_reverse, List.reverse_append] at hend
    rw [List.append_assoc, trimChars, ← hend]
    exact hcs
  · rintro ⟨a, b, ha, hb, rfl⟩
    exact trimChars_append ha hname hb

/-- What is cut has blanks at neither end. -/
theorem isTrimmed_trimChars (cs : List Char) : IsTrimmed (trimChars cs) := by
  have hhead (ds : List Char) : ∀ c ∈ (skipBlanks ds).head?, isBlank c = false := by
    intro c hc
    have h := List.head?_dropWhile_not isBlank ds
    rw [skipBlanks, Option.mem_def] at hc
    rw [hc] at h
    exact h
  constructor
  · intro c hc
    rw [trimChars, List.head?_reverse] at hc
    obtain ⟨g, -, hcs⟩ := exists_skipBlanks (skipBlanks cs).reverse
    have hlast : (skipBlanks cs).reverse.getLast? = some c := by
      rw [hcs, List.getLast?_append, Option.mem_def.mp hc]
      rfl
    rw [List.getLast?_reverse] at hlast
    exact hhead cs c hlast
  · intro c hc
    rw [trimChars, List.getLast?_reverse] at hc
    exact hhead _ c hc

theorem trimChars_trimChars (cs : List Char) : trimChars (trimChars cs) = trimChars cs :=
  (trimChars_eq_iff (isTrimmed_trimChars cs)).mpr ⟨[], [], nofun, nofun, by simp⟩

/-- Nothing is left of blanks, and of nothing else. -/
theorem trimChars_eq_nil_iff {cs : List Char} : trimChars cs = [] ↔ IsGap cs := by
  have hnone : IsTrimmed [] := ⟨nofun, nofun⟩
  rw [trimChars_eq_iff hnone]
  constructor
  · rintro ⟨a, b, ha, hb, rfl⟩ c hc
    rw [List.append_nil] at hc
    exact (List.mem_append.mp hc).elim (ha c) (hb c)
  · intro h
    exact ⟨cs, [], h, nofun, by simp⟩

theorem trim_eq_empty_iff {s : String} : trim s = "" ↔ IsGap s.toList := by
  rw [← trimChars_eq_nil_iff, trim, String.ofList_eq_empty_iff]

/-! ## Splitting at blanks -/

/-- The characters are words, one blank or more between each two of them, and blanks may stand
around them. -/
inductive Spaced : List (List Char) → List Char → Prop
  | nil {g : List Char} (hg : IsGap g) : Spaced [] g
  | cons {g w rest : List Char} {ws : List (List Char)} (hg : IsGap g) (hne : w ≠ [])
    (hw : ∀ c ∈ w, isBlank c = false) (hrest : ∀ c ∈ rest.head?, isBlank c = true)
    (h : Spaced ws rest) : Spaced (w :: ws) (g ++ w ++ rest)

theorem Spaced.blank_cons {ws : List (List Char)} {cs : List Char} {c : Char}
    (hc : isBlank c = true) (h : Spaced ws cs) : Spaced ws (c :: cs) := by
  have hgap {g : List Char} (hg : IsGap g) : IsGap (c :: g) := List.forall_mem_cons.mpr ⟨hc, hg⟩
  cases h with
  | nil hg => exact .nil (hgap hg)
  | cons hg hne hw hrest h => exact .cons (hgap hg) hne hw hrest h

/-- The runs between blanks that are words. -/
def wordChars (cs : List Char) : List (List Char) := (runs cs).filter fun run => !run.isEmpty

theorem runs_blank_cons {c : Char} (hc : isBlank c = true) (cs : List Char) :
    runs (c :: cs) = [] :: runs cs := by rw [runs, if_pos hc]

theorem wordChars_append_of_isGap {g : List Char} (hg : IsGap g) (cs : List Char) :
    wordChars (g ++ cs) = wordChars cs := by
  induction g with
  | nil => rfl
  | cons c g ih =>
    obtain ⟨hc, hg⟩ := List.forall_mem_cons.mp hg
    rw [← ih hg, List.cons_append, wordChars, runs_blank_cons hc]
    rfl

/-- What is not blank goes before the first run. -/
theorem runs_append {w rest run : List Char} {others : List (List Char)}
    (hw : ∀ c ∈ w, isBlank c = false) (h : runs rest = run :: others) :
    runs (w ++ rest) = (w ++ run) :: others := by
  induction w with
  | nil => exact h
  | cons c w ih =>
    obtain ⟨hc, hw⟩ := List.forall_mem_cons.mp hw
    rw [List.cons_append, runs, if_neg (by simp [hc]), ih hw]
    rfl

/-- The first run is empty where a blank or nothing is first. -/
theorem exists_runs_of_head {rest : List Char} (h : ∀ c ∈ rest.head?, isBlank c = true) :
    ∃ others, runs rest = [] :: others := by
  cases rest with
  | nil => exact ⟨[], rfl⟩
  | cons c rest => exact ⟨_, runs_blank_cons (h c rfl) rest⟩

theorem wordChars_of_spaced {ws : List (List Char)} {cs : List Char} (h : Spaced ws cs) :
    wordChars cs = ws := by
  induction h with
  | @nil g hg => simpa [wordChars, runs] using wordChars_append_of_isGap hg []
  | @cons g w rest ws hg hne hw hrest _ ih =>
    obtain ⟨others, hruns⟩ := exists_runs_of_head hrest
    rw [List.append_assoc, wordChars_append_of_isGap hg, wordChars, runs_append hw hruns]
    rw [wordChars, hruns] at ih
    have hkept : (!w.isEmpty) = true := by simpa using hne
    rw [List.append_nil, List.filter_cons, if_pos hkept]
    exact congrArg (w :: ·) ih

/-- The first run, and words with blanks around and between them after it. -/
theorem exists_runs (cs : List Char) : ∃ run others rest, runs cs = run :: others
    ∧ (∀ c ∈ run, isBlank c = false) ∧ cs = run ++ rest
    ∧ (∀ c ∈ rest.head?, isBlank c = true)
    ∧ Spaced (others.filter fun run => !run.isEmpty) rest := by
  induction cs with
  | nil => exact ⟨[], [], [], rfl, nofun, rfl, nofun, .nil nofun⟩
  | cons c cs ih =>
    obtain ⟨run, others, rest, hruns, hrun, hcs, hhead, hspaced⟩ := ih
    by_cases hc : isBlank c = true
    · refine ⟨[], run :: others, c :: cs, ?_, nofun, rfl, ?_, ?_⟩
      · rw [runs_blank_cons hc, hruns]
      · rintro _ ⟨⟩
        exact hc
      · subst hcs
        cases run with
        | nil => exact hspaced.blank_cons hc
        | cons d run =>
          have hone : IsGap [c] := fun x hx => List.mem_singleton.mp hx ▸ hc
          exact .cons hone (List.cons_ne_nil d run) hrun hhead hspaced
    · have hc : isBlank c = false := Bool.eq_false_iff.mpr hc
      refine ⟨c :: run, others, rest, ?_, List.forall_mem_cons.mpr ⟨hc, hrun⟩, ?_, hhead, hspaced⟩
      · rw [runs, if_neg (by simp [hc]), hruns]
      · rw [hcs, List.cons_append]

theorem spaced_wordChars (cs : List Char) : Spaced (wordChars cs) cs := by
  obtain ⟨run, others, rest, hruns, hrun, rfl, hhead, hspaced⟩ := exists_runs cs
  rw [wordChars, hruns]
  cases run with
  | nil => exact hspaced
  | cons c run => exact .cons (g := []) nofun (List.cons_ne_nil c run) hrun hhead hspaced

/-- What is split into words is the words with blanks around and between them. -/
theorem words_eq_iff {s : String} {ws : List (List Char)} :
    words s = ws.map String.ofList ↔ Spaced ws s.toList := by
  have hinj : Function.Injective String.ofList := fun a b h => by simpa using congrArg String.toList h
  rw [words, List.map_inj_right (fun a b h => hinj h)]
  constructor
  · rintro rfl
    exact spaced_wordChars s.toList
  · exact wordChars_of_spaced

end RowFilter.Text
