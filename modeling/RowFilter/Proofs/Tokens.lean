import RowFilter.Sql.Predicate
/-!
# Reading SQL token by token

A reader of SQL text that knows identifiers in double quotes (a quote in one is written
twice), literals in single quotes, numbered placeholders, words and single characters, and
nothing of what a text means. It reads one character at a time; `Mode` is the token it is in.

Results:
* `scan_append`: reading two texts is reading the first and going on with the second.
* `tokens?_append`: the tokens of two texts, where the cut does not go through a token.
* `tokens?_quoteIdentifier`: an identifier is read back as the name it was written with,
  whatever characters that holds.
* `tokens?_placeholder`: a placeholder is read back as its number.
-/
namespace RowFilter.Sql

inductive Token
  | identifier (name : String)
  | literal (s : String)
  /-- A dollar sign with digits after it. -/
  | numbered (n : Nat)
  | word (s : String)
  /-- A character that no other token takes. -/
  | symbol (c : Char)
  deriving DecidableEq, Repr

/-- Where the reader is. The characters are those of the token at hand. -/
inductive Mode
  | between
  | word (cs : List Char)
  /-- After a dollar sign and some digits. -/
  | number (ds : List Char)
  | identifier (cs : List Char)
  /-- After a quote that ends an identifier, unless another follows. -/
  | quote (cs : List Char)
  | literal (cs : List Char)
  deriving DecidableEq, Repr

def isWordChar (c : Char) : Bool := c.isAlphanum || c = '_'

namespace Mode

/-- What the token at hand is if it ends here; inside quotes it cannot. -/
def pending? : Mode → Option (List Token)
  | between => some []
  | word cs => some [.word (String.ofList cs)]
  | number [] => some [.symbol '$']
  | number ds => some [.numbered (Nat.ofDigitChars 10 ds 0)]
  | quote cs => some [.identifier (String.ofList cs)]
  | identifier _ | literal _ => none

/-- Reads a character where no token is at hand. -/
def start (c : Char) : List Token × Mode :=
  if Text.isBlank c then ([], between)
  else if c = '"' then ([], identifier [])
  else if c = '\'' then ([], literal [])
  else if c = '$' then ([], number [])
  else if isWordChar c then ([], word [c])
  else ([.symbol c], between)

/-- Ends the token at hand and reads a character that is not part of it. -/
def restart (m : Mode) (c : Char) : List Token × Mode :=
  (m.pending?.getD [] ++ (start c).1, (start c).2)

/-- Reads a character: the tokens it ends and where the reader is then. -/
def step : Mode → Char → List Token × Mode
  | between, c => start c
  | word cs, c => if isWordChar c then ([], word (cs ++ [c])) else restart (word cs) c
  | number ds, c => if c.isDigit then ([], number (ds ++ [c])) else restart (number ds) c
  | identifier cs, c => if c = '"' then ([], quote cs) else ([], identifier (cs ++ [c]))
  | quote cs, c => if c = '"' then ([], identifier (cs ++ [c])) else restart (quote cs) c
  | literal cs, c =>
    if c = '\'' then ([.literal (String.ofList cs)], between) else ([], literal (cs ++ [c]))

/-- Reads characters: the tokens that end among them and where the reader is then. -/
def scan : Mode → List Char → List Token × Mode
  | m, [] => ([], m)
  | m, c :: cs => ((m.step c).1 ++ (scan (m.step c).2 cs).1, (scan (m.step c).2 cs).2)

theorem scan_append (m : Mode) (cs ds : List Char) :
    m.scan (cs ++ ds) = ((m.scan cs).1 ++ ((m.scan cs).2.scan ds).1, ((m.scan cs).2.scan ds).2) := by
  induction cs generalizing m with
  | nil => rfl
  | cons c cs ih => simp only [List.cons_append, scan, ih, List.append_assoc]

end Mode

/-- The tokens of a text, or none if it ends inside quotes. -/
def tokens? (s : String) : Option (List Token) :=
  (Mode.between.scan s.toList).2.pending?.map ((Mode.between.scan s.toList).1 ++ ·)

/-! ## Where a text may be cut -/

/-- A character that is not part of a token that is read before it. -/
def isDelimiter (c : Char) : Bool := !isWordChar c && c ≠ '"'

/-- No token of a text before goes on into this one. -/
def opens (s : String) : Bool := s.toList.head?.all isDelimiter

/-- No token of this text goes on into one after it. -/
def closes (s : String) : Bool := (Mode.between.scan s.toList).2 = .between

theorem isWordChar_of_isDigit {c : Char} (h : c.isDigit = true) : isWordChar c = true := by
  simp [isWordChar, Char.isAlphanum, h]

/-- A delimiter ends any token but one in quotes. -/
theorem step_of_isDelimiter {m : Mode} {c : Char} (hm : m.pending?.isSome) (hc : isDelimiter c = true) :
    m.step c = m.restart c := by
  simp only [isDelimiter, Bool.and_eq_true, Bool.not_eq_true', ne_eq, decide_eq_true_eq] at hc
  obtain ⟨hw, hq⟩ := hc
  cases m with
  | between => simp [Mode.step, Mode.restart, Mode.pending?]
  | word cs => simp [Mode.step, hw]
  | number ds =>
    have hd : c.isDigit = false := by
      cases h : c.isDigit with
      | false => rfl
      | true => rw [isWordChar_of_isDigit h] at hw; cases hw
    simp [Mode.step, hd]
  | identifier cs => simp [Mode.pending?] at hm
  | quote cs => simp [Mode.step, hq]
  | literal cs => simp [Mode.pending?] at hm

theorem exists_cons_of_ne_empty {s : String} (h : s ≠ "") : ∃ c cs, s.toList = c :: cs := by
  cases hs : s.toList with
  | nil => exact absurd (String.toList_eq_nil_iff.mp hs) h
  | cons c cs => exact ⟨c, cs, rfl⟩

/-- A text that begins with a delimiter is read the same whatever token it ends. -/
theorem scan_of_opens {m : Mode} {ts : List Token} {s : String} (hm : m.pending? = some ts)
    (hs : opens s = true) (hne : s ≠ "") :
    m.scan s.toList = (ts ++ (Mode.between.scan s.toList).1, (Mode.between.scan s.toList).2) := by
  obtain ⟨c, cs, hc⟩ := exists_cons_of_ne_empty hne
  have hd : isDelimiter c = true := by simpa [opens, hc] using hs
  have hstep : m.step c = (ts ++ (Mode.start c).1, (Mode.start c).2) := by
    rw [step_of_isDelimiter (by simp [hm]) hd, Mode.restart, hm]; rfl
  rw [hc]
  simp only [Mode.scan, hstep, List.append_assoc]
  rfl

theorem isSome_of_closes {s : String} (h : closes s = true) : (tokens? s).isSome = true := by
  simp only [closes, decide_eq_true_eq] at h
  simp [tokens?, h, Mode.pending?]

/-- The tokens of two texts are those of the first and then those of the second, unless the
cut goes through a token. -/
theorem tokens?_append {a b : String} {ts us : List Token} (ha : tokens? a = some ts)
    (hb : tokens? b = some us) (h : closes a = true ∨ opens b = true) :
    tokens? (a ++ b) = some (ts ++ us) := by
  by_cases hne : b = ""
  · subst hne
    have : us = [] := by
      rw [show tokens? "" = some [] by decide] at hb
      exact (Option.some.inj hb).symm
    rw [this, List.append_nil, String.append_empty, ha]
  · rw [tokens?] at ha hb
    obtain ⟨xs, hx, rfl⟩ := Option.map_eq_some_iff.mp ha
    obtain ⟨ys, hy, rfl⟩ := Option.map_eq_some_iff.mp hb
    rw [tokens?, String.toList_append, Mode.scan_append]
    rcases h with h | h
    · have hm : (Mode.between.scan a.toList).2 = .between := by simpa [closes] using h
      have hxs : xs = [] := by rw [hm] at hx; exact (Option.some.inj hx).symm
      simp [hm, hy, hxs]
    · simp [scan_of_opens hx h hne, hy]

theorem closes_append {a b : String} {ts : List Token} (ha : tokens? a = some ts)
    (hb : closes b = true) (h : closes a = true ∨ opens b = true ∧ b ≠ "") :
    closes (a ++ b) = true := by
  rw [tokens?] at ha
  obtain ⟨xs, hx, -⟩ := Option.map_eq_some_iff.mp ha
  simp only [closes, decide_eq_true_eq] at hb h ⊢
  rw [String.toList_append, Mode.scan_append]
  rcases h with h | ⟨h, hne⟩
  · rw [h, hb]
  · rw [scan_of_opens hx h hne, hb]

theorem opens_append {a : String} (b : String) (ha : opens a = true) (hne : a ≠ "") :
    opens (a ++ b) = true := by
  obtain ⟨c, cs, hc⟩ := exists_cons_of_ne_empty hne
  simpa [opens, String.toList_append, hc] using ha

/-! ## Identifiers, literals and placeholders -/

/-- Reading a quoted identifier gives its name back and waits for what follows its last
quote. -/
theorem scan_quotedChars (cs name : List Char) :
    (Mode.identifier cs).scan (Dialect.quotedChars name) = ([], .quote (cs ++ name)) := by
  induction name generalizing cs with
  | nil => simp [Dialect.quotedChars, Mode.scan, Mode.step]
  | cons c name ih =>
    unfold Dialect.quotedChars
    split
    · next h => subst h; simp [Mode.scan, Mode.step, ih]
    · next h => simp [Mode.scan, Mode.step, h, ih]

theorem tokens?_quoteIdentifier (name : String) :
    tokens? (Dialect.quoteIdentifier name) = some [.identifier name] := by
  have h : Mode.between.scan (Dialect.quoteIdentifier name).toList = ([], .quote name.toList) := by
    rw [Dialect.quoteIdentifier, String.toList_ofList]
    exact scan_quotedChars [] name.toList
  simp [tokens?, h, Mode.pending?]

/-- Characters other than single quotes stay in the literal they are in. -/
theorem scan_literal (cs s : List Char) (h : '\'' ∉ s) :
    (Mode.literal cs).scan s = ([], .literal (cs ++ s)) := by
  induction s generalizing cs with
  | nil => simp [Mode.scan]
  | cons c s ih =>
    simp only [List.mem_cons, not_or] at h
    simp [Mode.scan, Mode.step, Ne.symm h.1, ih _ h.2]

/-- A literal is read back as what stands between its quotes. -/
theorem tokens?_literal {s : String} (h : '\'' ∉ s.toList) :
    tokens? ("'" ++ (s ++ "'")) = some [.literal s] ∧ closes ("'" ++ (s ++ "'")) = true := by
  have hs : Mode.between.scan ("'" ++ (s ++ "'")).toList = ([.literal s], .between) := by
    have hstart : Mode.start '\'' = ([], .literal []) := by decide
    have hq : "'".toList = ['\''] := rfl
    rw [String.toList_append, String.toList_append, hq, List.singleton_append, Mode.scan]
    simp [Mode.step, hstart, Mode.scan_append, scan_literal [] s.toList h, Mode.scan]
  exact ⟨by rw [tokens?, hs]; rfl, by rw [closes, hs]; rfl⟩

theorem scan_number (ds es : List Char) (h : ∀ c ∈ es, c.isDigit = true) :
    (Mode.number ds).scan es = ([], .number (ds ++ es)) := by
  induction es generalizing ds with
  | nil => simp [Mode.scan]
  | cons c es ih =>
    have hc := h c List.mem_cons_self
    simp [Mode.scan, Mode.step, hc, ih _ fun c hc => h c (List.mem_cons_of_mem _ hc)]

/-- The token of a placeholder. -/
def Dialect.mark : Dialect → Nat → Token
  | postgres, n => .numbered n
  | sqlite, _ => .symbol '?'

theorem tokens?_placeholder (d : Dialect) (n : Nat) : tokens? (d.placeholder n) = some [d.mark n] := by
  cases d with
  | sqlite => exact (by decide : tokens? "?" = some [.symbol '?'])
  | postgres =>
    have hl : (Dialect.postgres.placeholder n).toList = '$' :: Nat.toDigits 10 n := by
      simp [Dialect.placeholder]
    have hs : Mode.between.scan (Dialect.postgres.placeholder n).toList
        = ([], .number (Nat.toDigits 10 n)) := by
      rw [hl]
      exact scan_number [] _ fun c hc =>
        Nat.isDigit_of_mem_toDigits (b := 10) (by decide) (by decide) hc
    have hne := @Nat.toDigits_ne_nil n 10
    simp only [tokens?, hs, Dialect.mark]
    cases hd : Nat.toDigits 10 n with
    | nil => exact absurd hd hne
    | cons c cs =>
      have hv := @Nat.ofDigitChars_toDigits 10 n (by decide) (by decide)
      rw [hd] at hv
      simp [Mode.pending?, hv]

theorem opens_placeholder (d : Dialect) (n : Nat) : opens (d.placeholder n) = true := by
  cases d with
  | sqlite => exact (by decide : opens "?" = true)
  | postgres => exact opens_append _ (a := "$") (by decide) (by decide)

theorem placeholder_ne_empty (d : Dialect) (n : Nat) : d.placeholder n ≠ "" := by
  intro h
  have := congrArg tokens? h
  rw [tokens?_placeholder] at this
  exact absurd this (by simp [tokens?, Mode.scan, Mode.pending?])

end RowFilter.Sql
