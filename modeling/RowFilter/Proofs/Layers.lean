import Mathlib.Data.List.Nodup
import RowFilter.Calendar.Zone.Database
import RowFilter.Proofs.Refusal
import RowFilter.Settings
import RowFilter.Text.Blank.Lemmas
/-!
# Layers of settings

Every setting is looked up on its own: what its variable says goes before what the file says, and
that before the default. Loading succeeds if what was so chosen for each of the six settings is
valid, and else fails for the first of them for which it is not. What was not chosen is never
looked at, so it is no matter whether it is valid.

Results:
* `Text.readUnsigned_eq_ok_iff`: which texts are unsigned numbers.
* `ofSources_eq_ok_iff`: a result has what was chosen for every setting.
* `ofSources_eq_error_iff`: which setting a failure is for.
* `ofSources_layers`: the layers of all settings together.
-/
namespace RowFilter

open Sql (Dialect)

/-! ## Numbers and names in texts -/

namespace Text

/-- A number of 64 bits in digits, with a plus sign before them or without, and blanks around. -/
def IsUnsigned (text : String) (n : Nat) : Prop :=
  n < 0x10000000000000000 ∧ ∃ ds : List Char, ds ≠ [] ∧ (∀ c ∈ ds, c.isDigit = true)
    ∧ Decimal.digitsValue ds = n ∧ (trimChars text.toList = ds ∨ trimChars text.toList = '+' :: ds)

theorem le_foldl_digits (ds : List Char) (n : Nat) :
    n ≤ ds.foldl (fun n c => 10 * n + Decimal.digitValue c) n := by
  induction ds generalizing n with
  | nil => exact Nat.le_refl n
  | cons c ds ih =>
    have hmore := ih (10 * n + Decimal.digitValue c)
    rw [List.foldl_cons]
    omega

/-- The reader stops when the number is too large, after which more digits make it no smaller. -/
theorem readUnsignedFrom_eq_ok_iff {cs : List Char} {n m : Nat} (hn : n < 0x10000000000000000) :
    readUnsignedFrom n cs = .ok m ↔ m < 0x10000000000000000 ∧ (∀ c ∈ cs, c.isDigit = true)
      ∧ cs.foldl (fun n c => 10 * n + Decimal.digitValue c) n = m := by
  induction cs generalizing n with
  | nil =>
    simp only [readUnsignedFrom, Except.ok.injEq, List.not_mem_nil, List.foldl_nil]
    constructor
    · rintro rfl
      exact ⟨hn, nofun, rfl⟩
    · exact fun h => h.2.2
  | cons c cs ih =>
    rw [readUnsignedFrom, List.foldl_cons]
    by_cases hc : c.isDigit = true
    · by_cases hlt : 10 * n + Decimal.digitValue c < 0x10000000000000000
      · simp [hc, hlt, ih hlt]
      · have hmore := le_foldl_digits cs (10 * n + Decimal.digitValue c)
        simp only [hc, if_true, hlt, if_false, reduceCtorEq, false_iff]
        rintro ⟨hm, -, rfl⟩
        omega
    · simp [hc]

/-- What is read are the digits, with the plus sign or without. -/
theorem readUnsigned_eq_ok_iff {text : String} {n : Nat} :
    readUnsigned (trim text) = .ok n ↔ IsUnsigned text n := by
  have hread (ds : List Char) : readUnsignedFrom 0 ds = .ok n
      ↔ n < 0x10000000000000000 ∧ (∀ c ∈ ds, c.isDigit = true) ∧ Decimal.digitsValue ds = n :=
    readUnsignedFrom_eq_ok_iff (by decide)
  have hplus : ('+').isDigit = false := rfl
  rw [readUnsigned, trim, String.toList_ofList, IsUnsigned]
  generalize trimChars text.toList = cs
  split
  next => simp
  next =>
    simp only [reduceCtorEq, false_iff]
    rintro ⟨-, ds, hne, hd, -, hds | hds⟩
    · simp [← hds, hplus] at hd
    · simp at hds
      exact hne hds
  next ds hne =>
    rw [hread]
    constructor
    · rintro ⟨hn, hd, hv⟩
      exact ⟨hn, ds, fun h => hne (by rw [h]), hd, hv, .inr rfl⟩
    · rintro ⟨hn, es, -, hd, hv, hes | hes⟩
      · simp [← hes, hplus] at hd
      · obtain rfl : ds = es := by simpa using hes
        exact ⟨hn, hd, hv⟩
  next hempty hone hsign =>
    rw [hread]
    constructor
    · rintro ⟨hn, hd, hv⟩
      exact ⟨hn, cs, hempty, hd, hv, .inl rfl⟩
    · rintro ⟨hn, es, -, hd, hv, rfl | rfl⟩
      · exact ⟨hn, hd, hv⟩
      · exact absurd rfl (hsign es)

end Text

namespace Sql.Dialect

/-- The names of a dialect in lower case. -/
def names : Dialect → List String
  | .postgres => ["postgres", "postgresql", "pg"]
  | .sqlite => ["sqlite", "sqlite3"]

/-- The text that a name is compared as: blanks around it and the case of letters are no matter. -/
def folded (text : String) : String := (Text.trim text).map Char.toLower

theorem ofName_eq_ok_iff {text : String} {d : Dialect} :
    ofName text = .ok d ↔ folded text ∈ d.names := by
  rw [ofName, ← folded]
  generalize folded text = name
  split
  next h => rcases h with rfl | rfl | rfl <;> cases d <;> simp [names]
  next h =>
    split
    next h => rcases h with rfl | rfl <;> cases d <;> simp [names]
    next h => cases d <;> simp_all [names]

theorem ofName_eq_error_iff {text name : String} :
    ofName text = .error name ↔ (∀ d : Dialect, folded text ∉ d.names) ∧ folded text = name := by
  cases h : ofName text with
  | ok d =>
    have hd := ofName_eq_ok_iff.mp h
    simp only [reduceCtorEq, false_iff]
    exact fun hno => hno.1 d hd
  | error e =>
    have hno (d : Dialect) : folded text ∉ d.names := by
      intro hd
      rw [ofName_eq_ok_iff.mpr hd] at h
      cases h
    have he : folded text = e := by
      rw [ofName, ← folded] at h
      split at h
      next => cases h
      next =>
        split at h
        next => cases h
        next => exact Except.error.inj h
    rw [Except.error.injEq, ← he]
    exact ⟨fun heq => ⟨hno, heq⟩, And.right⟩

end Sql.Dialect

section

variable {α ε ε' : Type} {x : Except ε α} {f : ε → ε'}

theorem bind_eq_ok_iff {β : Type} {g : α → Except ε β} {b : β} :
    x >>= g = .ok b ↔ ∃ a, x = .ok a ∧ g a = .ok b := by
  cases x <;> simp [bind, Except.bind]

/-- The error of two steps, where that of the second is not up to what the first gives. -/
theorem fault?_bind {β : Type} {g : α → Except ε β} {o : Option ε} (h : ∀ a, fault? (g a) = o) :
    fault? (x >>= g) = (fault? x).or o := by
  cases x with
  | error e => rfl
  | ok a => exact h a

theorem mapError_eq_ok_iff {a : α} : x.mapError f = .ok a ↔ x = .ok a := by
  cases x <;> simp [Except.mapError]

theorem mapError_eq_error_iff {e : ε'} :
    x.mapError f = .error e ↔ ∃ e', x = .error e' ∧ f e' = e := by
  cases x <;> simp [Except.mapError]

end

namespace Settings

/-! ## Settings and their sources -/

inductive Limit
  | maxJsonBytes | maxConditions | maxDepth
  deriving DecidableEq, Repr

namespace Limit

def variableName : Limit → String
  | maxJsonBytes => maxJsonBytesVariable
  | maxConditions => maxConditionsVariable
  | maxDepth => maxDepthVariable

def get (ls : Filter.Limits) : Limit → Nat
  | maxJsonBytes => ls.maxJsonBytes
  | maxConditions => ls.maxConditions
  | maxDepth => ls.maxDepth

def inFile? (ls : FileLimits) : Limit → Option Nat
  | maxJsonBytes => ls.maxJsonBytes
  | maxConditions => ls.maxConditions
  | maxDepth => ls.maxDepth

end Limit

inductive Setting
  | dialect
  | limit (l : Limit)
  | zone
  | placeholder
  deriving DecidableEq, Repr

/-- What a source says of a setting. A variable says a text. -/
inductive Entry
  | text (s : String)
  | dialect (d : Dialect)
  | limit (n : Nat)
  deriving DecidableEq, Repr

namespace Setting

/-- The settings in the order in which they are looked up. -/
def all : List Setting :=
  [dialect, limit .maxJsonBytes, limit .maxConditions, limit .maxDepth, zone, placeholder]

def variableName : Setting → String
  | dialect => dialectVariable
  | limit l => l.variableName
  | zone => zoneVariable
  | placeholder => placeholderVariable

def inFile? (file : File) : Setting → Option Entry
  | dialect => file.dialect.map .dialect
  | limit l => (l.inFile? (file.limits.getD {})).map .limit
  | zone => file.defaultZone.map .text
  | placeholder => file.actorPlaceholder.map .text

/-- What counts where no source says anything. -/
def standard : Setting → Entry
  | dialect => .dialect .postgres
  | limit .maxJsonBytes => .limit 65536
  | limit .maxConditions => .limit 200
  | limit .maxDepth => .limit 64
  | zone => .text "UTC"
  | placeholder => .text "me"

/-- What counts of a setting: its variable before the file, and the file before the default. -/
def chosen (file : Option File) (env : Environment) (s : Setting) : Entry :=
  match env s.variableName with
  | some text => .text text
  | none => (file.bind s.inFile?).getD s.standard

theorem mem_all (s : Setting) : s ∈ all := by
  rcases s with _ | ⟨_ | _ | _⟩ | _ | _ <;> simp [all]

theorem forall_iff {P : Setting → Prop} : (∀ s, P s) ↔
    P dialect ∧ P (limit .maxJsonBytes) ∧ P (limit .maxConditions) ∧ P (limit .maxDepth)
      ∧ P zone ∧ P placeholder := by
  constructor
  · intro h
    exact ⟨h _, h _, h _, h _, h _, h _⟩
  · rintro ⟨hd, hj, hn, hk, hz, hp⟩ s
    rcases s with _ | ⟨_ | _ | _⟩ | _ | _ <;> assumption

end Setting

/-! ## What is valid -/

section

variable (zones : Zone.Database)

/-- What was chosen for a setting is valid, and the settings take it over. -/
def Takes (c : Settings) : Setting → Entry → Prop
  | .dialect, .dialect d => d = c.dialect
  | .dialect, .text name => Dialect.folded name ∈ c.dialect.names
  | .limit l, .limit n => n = l.get c.limits ∧ 0 < l.get c.limits
  | .limit l, .text text => Text.IsUnsigned text (l.get c.limits) ∧ 0 < l.get c.limits
  | .zone, .text name => zones name = some c.defaultZone
  | .placeholder, .text text => ¬ Text.IsGap text.toList ∧ text = c.actorPlaceholder
  | _, _ => False

/-- What was chosen for a setting is invalid, and the error says so. -/
def Refuses (e : LoadError) : Setting → Entry → Prop
  | .dialect, .text name =>
    (∀ d : Dialect, Dialect.folded name ∉ d.names)
    ∧ LoadError.unknownDialect (Dialect.folded name) = e
  | .limit l, .limit n => n = 0 ∧ LoadError.zeroLimit l.variableName = e
  | .limit l, .text text =>
    (∃ why, Text.readUnsigned (Text.trim text) = .error why
      ∧ LoadError.invalidLimit l.variableName text why = e)
    ∨ Text.IsUnsigned text 0 ∧ LoadError.zeroLimit l.variableName = e
  | .zone, .text name => zones name = none ∧ LoadError.unknownZone name = e
  | .placeholder, .text text => Text.IsGap text.toList ∧ LoadError.blankPlaceholder = e
  | _, _ => False

end

/-! ## Each setting -/

section

variable {zones : Zone.Database} {file : Option File} {env : Environment} {c : Settings}
  {e : LoadError}

theorem bind_inFile? (file : Option File) (s : Setting) :
    file.bind s.inFile? = s.inFile? (file.getD {}) := by
  cases file with
  | some file => rfl
  | none =>
    rcases s with _ | l | _ | _
    · rfl
    · cases l <;> rfl
    · rfl
    · rfl

theorem standard_limit (l : Limit) :
    (Setting.limit l).standard = .limit (l.get Filter.Limits.standard) := by
  cases l <;> rfl

theorem resolveDialect_eq_ok_iff : resolveDialect env (file.getD {}).dialect = .ok c.dialect
    ↔ c.Takes zones .dialect (Setting.dialect.chosen file env) := by
  rw [resolveDialect, Setting.chosen, bind_inFile?, Setting.variableName]
  cases env dialectVariable with
  | some text => simp [mapError_eq_ok_iff, Dialect.ofName_eq_ok_iff, Takes]
  | none =>
    cases h : (file.getD {}).dialect <;> simp [Setting.inFile?, Setting.standard, Takes, h]

theorem resolveDialect_eq_error_iff : resolveDialect env (file.getD {}).dialect = .error e
    ↔ Refuses zones e .dialect (Setting.dialect.chosen file env) := by
  rw [resolveDialect, Setting.chosen, bind_inFile?, Setting.variableName]
  cases env dialectVariable with
  | some text => simp [mapError_eq_error_iff, Dialect.ofName_eq_error_iff, Refuses, and_assoc]
  | none =>
    cases h : (file.getD {}).dialect <;> simp [Setting.inFile?, Setting.standard, Refuses, h]

/-- The last step of a limit. -/
theorem nonzero_eq_ok_iff {name : String} {n m : Nat} :
    (if n = 0 then .error (LoadError.zeroLimit name) else .ok n : Except LoadError Nat) = .ok m
      ↔ n = m ∧ 0 < m := by
  split <;> simp <;> omega

theorem nonzero_eq_error_iff {name : String} {n : Nat} :
    (if n = 0 then .error (LoadError.zeroLimit name) else .ok n : Except LoadError Nat) = .error e
      ↔ n = 0 ∧ LoadError.zeroLimit name = e := by
  split <;> simp_all

theorem resolveLimit_eq_ok_iff (l : Limit) :
    resolveLimit env l.variableName (l.inFile? ((file.getD {}).limits.getD {}))
        (l.get .standard) = .ok (l.get c.limits)
      ↔ c.Takes zones (.limit l) ((Setting.limit l).chosen file env) := by
  rw [resolveLimit, Setting.chosen, bind_inFile?, Setting.variableName]
  cases env l.variableName with
  | some text =>
    simp only [Takes, ← Text.readUnsigned_eq_ok_iff]
    cases h : Text.readUnsigned (Text.trim text) with
    | error why => simp [Except.mapError, bind, Except.bind]
    | ok n => simp [Except.mapError, bind, Except.bind, nonzero_eq_ok_iff]
  | none =>
    cases h : l.inFile? ((file.getD {}).limits.getD {}) <;>
      simp [Setting.inFile?, Takes, h, standard_limit, bind, Except.bind, nonzero_eq_ok_iff]

theorem resolveLimit_eq_error_iff (l : Limit) :
    resolveLimit env l.variableName (l.inFile? ((file.getD {}).limits.getD {}))
        (l.get .standard) = .error e
      ↔ Refuses zones e (.limit l) ((Setting.limit l).chosen file env) := by
  rw [resolveLimit, Setting.chosen, bind_inFile?, Setting.variableName]
  cases env l.variableName with
  | some text =>
    simp only [Refuses, ← Text.readUnsigned_eq_ok_iff]
    cases h : Text.readUnsigned (Text.trim text) with
    | error why => simp [Except.mapError, bind, Except.bind]
    | ok n => simp [Except.mapError, bind, Except.bind, nonzero_eq_error_iff]
  | none =>
    cases h : l.inFile? ((file.getD {}).limits.getD {}) <;>
      simp [Setting.inFile?, Refuses, h, standard_limit, bind, Except.bind, nonzero_eq_error_iff]

/-- Where a variable and the file say texts, the text that counts. -/
theorem chosen_of_text {s : Setting} {inFile : Option String} {standard : String}
    (hf : s.inFile? (file.getD {}) = inFile.map .text) (hs : s.standard = .text standard) :
    s.chosen file env = .text (((env s.variableName) <|> inFile).getD standard) := by
  rw [Setting.chosen, bind_inFile?, hf, hs]
  cases env s.variableName <;> cases inFile <;> rfl

theorem resolveZone_eq_ok_iff : resolveZone zones env (file.getD {}).defaultZone = .ok c.defaultZone
    ↔ c.Takes zones .zone (Setting.zone.chosen file env) := by
  rw [resolveZone, chosen_of_text rfl rfl, Setting.variableName, Takes]
  cases h : zones ((env zoneVariable <|> (file.getD {}).defaultZone).getD "UTC") <;> simp

theorem resolveZone_eq_error_iff : resolveZone zones env (file.getD {}).defaultZone = .error e
    ↔ Refuses zones e .zone (Setting.zone.chosen file env) := by
  rw [resolveZone, chosen_of_text rfl rfl, Setting.variableName, Refuses]
  cases h : zones ((env zoneVariable <|> (file.getD {}).defaultZone).getD "UTC") <;> simp

theorem resolvePlaceholder_eq_ok_iff :
    resolvePlaceholder env (file.getD {}).actorPlaceholder = .ok c.actorPlaceholder
      ↔ c.Takes zones .placeholder (Setting.placeholder.chosen file env) := by
  rw [resolvePlaceholder, chosen_of_text rfl rfl, Setting.variableName, Takes,
    ← Text.trim_eq_empty_iff, ← String.isEmpty_iff]
  split <;> simp_all

theorem resolvePlaceholder_eq_error_iff :
    resolvePlaceholder env (file.getD {}).actorPlaceholder = .error e
      ↔ Refuses zones e .placeholder (Setting.placeholder.chosen file env) := by
  rw [resolvePlaceholder, chosen_of_text rfl rfl, Setting.variableName, Refuses,
    ← Text.trim_eq_empty_iff, ← String.isEmpty_iff]
  split <;> simp_all

/-- Two settings that take the same over agree on it. -/
def SameAt (c c' : Settings) : Setting → Prop
  | .dialect => c.dialect = c'.dialect
  | .limit l => l.get c.limits = l.get c'.limits
  | .zone => c.defaultZone = c'.defaultZone
  | .placeholder => c.actorPlaceholder = c'.actorPlaceholder

theorem sameAt_of_takes {c c' : Settings} {s : Setting} {entry : Entry} (h : c.Takes zones s entry)
    (h' : c'.Takes zones s entry) : SameAt c c' s := by
  unfold Takes at h h'
  split at h
  all_goals simp only [SameAt] at *
  · exact h.symm.trans h'
  · rw [← Dialect.ofName_eq_ok_iff] at h h'
    exact Except.ok.inj (h.symm.trans h')
  · exact h.1.symm.trans h'.1
  · have hread := Text.readUnsigned_eq_ok_iff.mpr h.1
    rw [Text.readUnsigned_eq_ok_iff.mpr h'.1] at hread
    exact (Except.ok.inj hread).symm
  · exact Option.some.inj (h.symm.trans h')
  · exact h.2.symm.trans h'.2

end

/-! ## All settings -/

section

variable (zones : Zone.Database) (file : Option File) (env : Environment)

/-- A result has what was chosen for every setting. -/
theorem ofSources_eq_ok_iff (c : Settings) : ofSources zones (file.getD {}) env = .ok c
    ↔ ∀ s : Setting, c.Takes zones s (s.chosen file env) := by
  simp only [Setting.forall_iff, ← resolveDialect_eq_ok_iff, ← resolveLimit_eq_ok_iff,
    ← resolveZone_eq_ok_iff, ← resolvePlaceholder_eq_ok_iff, ofSources, Limit.variableName,
    Limit.inFile?, Limit.get]
  obtain ⟨d, ⟨j, n, k⟩, z, p⟩ := c
  simp only [bind_eq_ok_iff]
  constructor
  · rintro ⟨d', hd, j', hj, n', hn, k', hk, z', hz, p', hp, hc⟩
    cases hc
    exact ⟨hd, hj, hn, hk, hz, hp⟩
  · rintro ⟨hd, hj, hn, hk, hz, hp⟩
    exact ⟨d, hd, j, hj, n, hn, k, hk, z, hz, p, hp, rfl⟩

/-- The error that a setting is refused with. -/
def refusal? : Setting → Option LoadError
  | .dialect => fault? (resolveDialect env (file.getD {}).dialect)
  | .limit l =>
    fault? (resolveLimit env l.variableName (l.inFile? ((file.getD {}).limits.getD {}))
      (l.get .standard))
  | .zone => fault? (resolveZone zones env (file.getD {}).defaultZone)
  | .placeholder => fault? (resolvePlaceholder env (file.getD {}).actorPlaceholder)

theorem refusal?_eq_some_iff {s : Setting} {e : LoadError} :
    refusal? zones file env s = some e ↔ Refuses zones e s (s.chosen file env) := by
  rcases s with _ | l | _ | _
  · rw [refusal?, fault?_eq_some, resolveDialect_eq_error_iff]
  · rw [refusal?, fault?_eq_some, resolveLimit_eq_error_iff]
  · rw [refusal?, fault?_eq_some, resolveZone_eq_error_iff]
  · rw [refusal?, fault?_eq_some, resolvePlaceholder_eq_error_iff]

/-- The settings are looked up in order, and the first that is refused ends it. -/
theorem fault?_ofSources : fault? (ofSources zones (file.getD {}) env)
    = Setting.all.findSome? (refusal? zones file env) := by
  have hcons (s : Setting) (ss : List Setting) : (s :: ss).findSome? (refusal? zones file env)
      = (refusal? zones file env s).or (ss.findSome? (refusal? zones file env)) := by
    rw [List.findSome?_cons]
    cases refusal? zones file env s <;> rfl
  simp only [Setting.all, hcons, List.findSome?_nil]
  exact fault?_bind fun _ => fault?_bind fun _ => fault?_bind fun _ => fault?_bind fun _ =>
    fault?_bind fun _ => fault?_bind fun _ => rfl

/-- A failure is for the first setting for which what was chosen is invalid. -/
theorem ofSources_eq_error_iff (e : LoadError) : ofSources zones (file.getD {}) env = .error e
    ↔ ∃ before s after, Setting.all = before ++ s :: after
      ∧ Refuses zones e s (s.chosen file env)
      ∧ ∀ r ∈ before, ∀ e', ¬ Refuses zones e' r (r.chosen file env) := by
  have hvalid (r : Setting) : refusal? zones file env r = none ↔
      ∀ e', ¬ Refuses zones e' r (r.chosen file env) := by
    simp [← refusal?_eq_some_iff, Option.eq_none_iff_forall_ne_some]
  rw [← fault?_eq_some, fault?_ofSources, List.findSome?_eq_some_iff]
  simp only [refusal?_eq_some_iff, hvalid]

theorem exists_error_iff_refuses : (∃ e, ofSources zones (file.getD {}) env = .error e)
    ↔ ∃ s e, Refuses zones e s (s.chosen file env) := by
  simp only [← fault?_eq_some, fault?_ofSources, ← refusal?_eq_some_iff,
    ← Option.isSome_iff_exists, List.findSome?_isSome_iff]
  simp [Setting.mem_all]

variable {zones file env}

/-- Nothing counts but what was chosen. -/
theorem ofSources_congr {file' : Option File} {env' : Environment}
    (h : ∀ s : Setting, s.chosen file' env' = s.chosen file env) :
    ofSources zones (file'.getD {}) env' = ofSources zones (file.getD {}) env := by
  cases hr : ofSources zones (file.getD {}) env with
  | ok c =>
    rw [ofSources_eq_ok_iff] at hr ⊢
    simpa only [h] using hr
  | error e =>
    rw [ofSources_eq_error_iff] at hr ⊢
    simpa only [h] using hr

/-- What the file says of a setting is no matter where its variable is set. -/
theorem chosen_of_masked {file' : Option File} {s : Setting}
    (h : env s.variableName = none → file'.bind s.inFile? = file.bind s.inFile?) :
    s.chosen file' env = s.chosen file env := by
  unfold Setting.chosen
  split
  next => rfl
  next hnone => rw [h hnone]

/-- No two settings have one variable. -/
theorem variableName_injective : Setting.variableName.Injective := by
  have hnodup : (Setting.all.map Setting.variableName).Nodup := by decide
  intro s r h
  exact List.inj_on_of_nodup_map hnodup s.mem_all r.mem_all h

end

/-- Every setting is what its variable says, or else the file, or else the default; the settings
are taken over if what was so chosen is valid for all of them, and refused for the first of them
for which it is not. What the file says of a setting is no matter where its variable is set. Where
one variable or one field of the file changes, the other settings stay as they are. -/
theorem ofSources_layers (zones : Zone.Database) (file : Option File) (env : Environment) :
    (∀ c, ofSources zones (file.getD {}) env = .ok c
        ↔ ∀ s : Setting, c.Takes zones s (s.chosen file env))
    ∧ ((∃ e, ofSources zones (file.getD {}) env = .error e)
        ↔ ∃ s e, Refuses zones e s (s.chosen file env))
    ∧ (∀ e, ofSources zones (file.getD {}) env = .error e ↔
        ∃ before s after, Setting.all = before ++ s :: after
          ∧ Refuses zones e s (s.chosen file env)
          ∧ ∀ r ∈ before, ∀ e', ¬ Refuses zones e' r (r.chosen file env))
    ∧ (∀ file' : Option File,
        (∀ s : Setting, env s.variableName = none → file'.bind s.inFile? = file.bind s.inFile?) →
        ofSources zones (file'.getD {}) env = ofSources zones (file.getD {}) env)
    ∧ ∀ (s : Setting) (file' : Option File) (env' : Environment) (c c' : Settings),
        (∀ name, name ≠ s.variableName → env' name = env name) →
        (∀ r : Setting, r ≠ s → file'.bind r.inFile? = file.bind r.inFile?) →
        ofSources zones (file.getD {}) env = .ok c →
        ofSources zones (file'.getD {}) env' = .ok c' →
        ∀ r, r ≠ s → SameAt c c' r := by
  refine ⟨ofSources_eq_ok_iff zones file env, exists_error_iff_refuses zones file env,
    ofSources_eq_error_iff zones file env, ?_, ?_⟩
  · intro file' h
    exact ofSources_congr fun s => chosen_of_masked (h s)
  · intro s file' env' c c' henv hfile hc hc' r hr
    rw [ofSources_eq_ok_iff] at hc hc'
    have hsame : r.chosen file' env' = r.chosen file env := by
      have hname := henv r.variableName (variableName_injective.ne hr)
      rw [Setting.chosen, Setting.chosen, hname, hfile r hr]
    exact sameAt_of_takes (hc r) (hsame ▸ hc' r)

/-- The file names a zone that there is not, but a variable masks it. -/
theorem ofSources_layers_maskedZone :
    let file : File := { limits := some { maxDepth := some 8 }, defaultZone := some "Mars/Base" }
    let env : Environment := fun name =>
      if name = "TABULA_FILTER_TIME_ZONE" then some "UTC"
      else if name = "TABULA_FILTER_ACTOR_PLACEHOLDER" then some " myself " else none
    ofSources .bundled file env = .ok ⟨.postgres, ⟨65536, 200, 8⟩, .utc, " myself "⟩
      ∧ ofSources .bundled { file with defaultZone := none } env
        = ofSources .bundled file env := by
  intro file env
  obtain ⟨hok, -, -, hmasked, -⟩ := ofSources_layers .bundled (some file) env
  constructor
  · have hplaceholder : ¬ Text.IsGap " myself ".toList := by
      intro h
      exact absurd (h 'm' (by decide)) (by decide)
    have hzone : Zone.Database.bundled "UTC" = some .utc := rfl
    have hchosen : Setting.all.map (Setting.chosen (some file) env) = [.dialect .postgres,
        .limit 65536, .limit 200, .limit 8, .text "UTC", .text " myself "] := by decide
    simp only [Setting.all, List.map_cons, List.map_nil, List.cons.injEq, and_true] at hchosen
    obtain ⟨hd, hj, hn, hk, hz, hp⟩ := hchosen
    refine (hok _).mpr ?_
    rw [Setting.forall_iff, hd, hj, hn, hk, hz, hp]
    simp only [Takes]
    exact ⟨trivial, ⟨rfl, by decide⟩, ⟨rfl, by decide⟩, ⟨rfl, by decide⟩, hzone, hplaceholder,
      trivial⟩
  · refine hmasked (some { file with defaultZone := none }) ?_
    rw [Setting.forall_iff]
    refine ⟨fun _ => rfl, fun _ => rfl, fun _ => rfl, fun _ => rfl, ?_, fun _ => rfl⟩
    intro hzone
    cases hzone

end Settings

end RowFilter
