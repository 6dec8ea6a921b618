import RowFilter.Json.Embedded.Lemmas
import RowFilter.Json.Writer.Lemmas
/-!
# Settled documents

In a settled document each key of an object stands once, and no object stands for another
document. Settling leaves such a document as it is; and what it gives is such a document,
whatever was read and whatever texts stood in it.

* `Json.settle?_eq_self`: a settled document is settled to itself.
* `Json.settled_of_ofTextWithin?`: what is read of a text is settled, and its numbers can be held.
-/
namespace RowFilter.Json

/-! ## Fields with each key once -/

section

variable {α : Type} {key : String} {v : α} {fields acc : List (String × α)}

def keys (fields : List (String × α)) : List String := fields.map Prod.fst

theorem mem_of_mem_put {f : String × α} (h : f ∈ put key v fields) : f = (key, v) ∨ f ∈ fields := by
  induction fields with
  | nil => exact .inl (List.mem_singleton.mp h)
  | cons g fields ih =>
    rw [put] at h
    split at h
    · rename_i hkey
      rcases List.mem_cons.mp h with rfl | h
      · exact .inl (by rw [hkey])
      · exact .inr (List.mem_cons_of_mem _ h)
    · rcases List.mem_cons.mp h with rfl | h
      · exact .inr List.mem_cons_self
      · exact (ih h).imp_right (List.mem_cons_of_mem _)

theorem keys_cons (f : String × α) (fields : List (String × α)) :
    keys (f :: fields) = f.1 :: keys fields := rfl

/-- The keys stay as they are if the key is among them, and else it comes last. -/
theorem keys_put (key : String) (v : α) (fields : List (String × α)) :
    keys (put key v fields) = if key ∈ keys fields then keys fields else keys fields ++ [key] := by
  induction fields with
  | nil => rfl
  | cons g fields ih =>
    rw [put]
    by_cases hkey : g.1 = key
    · simp [keys, hkey]
    · have hmem : key ∈ g.1 :: keys fields ↔ key ∈ keys fields :=
        ⟨fun h => (List.mem_cons.mp h).resolve_left (Ne.symm hkey), List.mem_cons_of_mem _⟩
      rw [if_neg hkey, keys_cons, keys_cons, ih, ite_cond_congr (propext hmem)]
      split <;> rfl

theorem put_of_not_mem (h : key ∉ keys fields) : put key v fields = fields ++ [(key, v)] := by
  induction fields with
  | nil => rfl
  | cons g fields ih =>
    obtain ⟨hne, hnot⟩ := not_or.mp (mt List.mem_cons.mpr h)
    rw [put, if_neg (Ne.symm hne), ih hnot, List.cons_append]

theorem nodup_keys_put (h : (keys fields).Nodup) : (keys (put key v fields)).Nodup := by
  rw [keys_put]
  split
  · exact h
  · rename_i hnot
    exact h.append (List.nodup_singleton key) (List.disjoint_singleton.mpr hnot)

/-- Setting the fields one after the other. -/
def putAll (acc fields : List (String × α)) : List (String × α) :=
  fields.foldl (fun acc (k, v) => put k v acc) acc

theorem putAll_cons (acc : List (String × α)) (f : String × α) (fields : List (String × α)) :
    putAll acc (f :: fields) = putAll (put f.1 f.2 acc) fields := rfl

theorem putAll_eq_append (h : (keys (acc ++ fields)).Nodup) :
    putAll acc fields = acc ++ fields := by
  induction fields generalizing acc with
  | nil => exact (List.append_nil acc).symm
  | cons f fields ih =>
    have hnot : f.1 ∉ keys acc := by
      rw [keys, List.map_append, List.map_cons] at h
      exact fun hmem => (List.nodup_append.mp h).2.2 _ hmem _ List.mem_cons_self rfl
    rw [putAll_cons, put_of_not_mem hnot, ih (by rwa [List.append_assoc]), List.append_assoc]
    rfl

theorem nodup_keys_putAll (h : (keys acc).Nodup) : (keys (putAll acc fields)).Nodup := by
  induction fields generalizing acc with
  | nil => exact h
  | cons f fields ih => exact ih (nodup_keys_put h)

theorem mem_of_mem_putAll {f : String × α} (h : f ∈ putAll acc fields) : f ∈ acc ∨ f ∈ fields := by
  induction fields generalizing acc with
  | nil => exact .inl h
  | cons g fields ih =>
    rcases ih h with h | h
    · rcases mem_of_mem_put h with rfl | h
      · exact .inr List.mem_cons_self
      · exact .inl h
    · exact .inr (List.mem_cons_of_mem _ h)

/-- The first key stays the first. -/
theorem head?_keys_putAll (h : keys acc ≠ []) :
    (keys (putAll acc fields)).head? = (keys acc).head? := by
  induction fields generalizing acc with
  | nil => rfl
  | cons f fields ih =>
    have hput : keys (put f.1 f.2 acc) ≠ []
        ∧ (keys (put f.1 f.2 acc)).head? = (keys acc).head? := by
      rw [keys_put]
      split
      · exact ⟨h, rfl⟩
      · exact ⟨List.append_ne_nil_of_left_ne_nil h _, List.head?_append_of_ne_nil _ h⟩
    rw [putAll_cons, ih hput.1, hput.2]

/-! ### Settled fields -/

theorem settleFields_eq_self (h : (keys fields).Nodup) : settleFields fields = fields :=
  putAll_eq_append h

theorem nodup_keys_settleFields (fields : List (String × α)) :
    (keys (settleFields fields)).Nodup :=
  nodup_keys_putAll List.nodup_nil

theorem mem_of_mem_settleFields {f : String × α} (h : f ∈ settleFields fields) : f ∈ fields :=
  (mem_of_mem_putAll h).resolve_left List.not_mem_nil

theorem head?_keys_settleFields (fields : List (String × α)) :
    (keys (settleFields fields)).head? = (keys fields).head? := by
  cases fields with
  | nil => rfl
  | cons f fields =>
    have h : keys [f] ≠ [] := List.cons_ne_nil f.1 []
    exact head?_keys_putAll h

end

theorem isEmbedded_eq (fields : List (String × Json)) :
    isEmbedded fields = decide ((keys fields).head? = some embeddedKey) := by
  cases fields with
  | nil => rfl
  | cons f fields => simp [isEmbedded, keys]

/-! ## Settled documents -/

/-- A property of the fields of every object in the document. -/
inductive EachObject (p : List (String × Json) → Prop) : Json → Prop
  | null : EachObject p .null
  | bool (b : Bool) : EachObject p (.bool b)
  | int (i : Int) : EachObject p (.int i)
  | float (x : Binary64) : EachObject p (.float x)
  | str (s : String) : EachObject p (.str s)
  | arr {items : List Json} (h : ∀ j ∈ items, EachObject p j) : EachObject p (.arr items)
  | obj {fields : List (String × Json)} (hp : p fields) (h : ∀ f ∈ fields, EachObject p f.2) :
    EachObject p (.obj fields)

/-- No key stands twice in an object. -/
def KeysOnce : Json → Prop := EachObject fun fields => (keys fields).Nodup

/-- No object stands for another document. -/
def EmbedsNone : Json → Prop := EachObject fun fields => isEmbedded fields = false

/-- A document as a condition holds it. -/
structure Settled (j : Json) : Prop where
  representable : j.Representable
  keysOnce : j.KeysOnce
  embedsNone : j.EmbedsNone

mutual

/-- A settled document is settled to itself. -/
theorem settleWith?_eq_self (f : String → Option Json) {j : Json} (hkeys : j.KeysOnce)
    (hembeds : j.EmbedsNone) : settleWith? f j = some j := by
  cases hkeys with
  | null | bool | int | float | str => rfl
  | arr hkeys =>
    cases hembeds with
    | arr hembeds =>
      rw [settleWith?, settleItems?_eq_self f hkeys hembeds]
      rfl
  | obj hnodup hkeys =>
    cases hembeds with
    | obj hfirst hembeds =>
      rw [settleWith?, hfirst, if_neg Bool.false_ne_true, settleValues?_eq_self f hkeys hembeds,
        Option.map_some, settleFields_eq_self hnodup]

theorem settleItems?_eq_self (f : String → Option Json) {items : List Json}
    (hkeys : ∀ j ∈ items, KeysOnce j) (hembeds : ∀ j ∈ items, EmbedsNone j) :
    settleItems? f items = some items := by
  cases items with
  | nil => rfl
  | cons j items =>
    rw [settleItems?, settleWith?_eq_self f (hkeys j List.mem_cons_self)
      (hembeds j List.mem_cons_self), settleItems?_eq_self f
      (fun j hj => hkeys j (List.mem_cons_of_mem _ hj))
      (fun j hj => hembeds j (List.mem_cons_of_mem _ hj))]
    rfl

theorem settleValues?_eq_self (f : String → Option Json) {fields : List (String × Json)}
    (hkeys : ∀ v ∈ fields, KeysOnce v.2) (hembeds : ∀ v ∈ fields, EmbedsNone v.2) :
    settleValues? f fields = some fields := by
  cases fields with
  | nil => rfl
  | cons v fields =>
    rw [settleValues?, settleWith?_eq_self f (hkeys v List.mem_cons_self)
      (hembeds v List.mem_cons_self), settleValues?_eq_self f
      (fun v hv => hkeys v (List.mem_cons_of_mem _ hv))
      (fun v hv => hembeds v (List.mem_cons_of_mem _ hv))]
    rfl

end

/-! ## What settling gives -/

theorem Settled.arr {items : List Json} (h : ∀ j ∈ items, Settled j) : Settled (.arr items) where
  representable := .arr fun j hj => (h j hj).representable
  keysOnce := .arr fun j hj => (h j hj).keysOnce
  embedsNone := .arr fun j hj => (h j hj).embedsNone

theorem Settled.obj {fields : List (String × Json)} (hnodup : (keys fields).Nodup)
    (hfirst : isEmbedded fields = false) (h : ∀ v ∈ fields, Settled v.2) :
    Settled (.obj fields) where
  representable := .obj fun v hv => (h v hv).representable
  keysOnce := .obj hnodup fun v hv => (h v hv).keysOnce
  embedsNone := .obj hfirst fun v hv => (h v hv).embedsNone

mutual

theorem settled_of_settleWith? {f : String → Option Json}
    (hf : ∀ s k, f s = some k → Settled k) {j k : Json} (hj : j.Representable)
    (h : settleWith? f j = some k) : k.Settled := by
  cases hj with
  | null => cases h; exact ⟨.null, .null, .null⟩
  | bool b => cases h; exact ⟨.bool b, .bool b, .bool b⟩
  | @int i hi => cases h; exact ⟨.int hi, .int i, .int i⟩
  | @float x hx => cases h; exact ⟨.float hx, .float x, .float x⟩
  | str s => cases h; exact ⟨.str s, .str s, .str s⟩
  | arr hj =>
    rw [settleWith?] at h
    obtain ⟨items, hitems, rfl⟩ := Option.map_eq_some_iff.mp h
    exact .arr (settled_of_settleItems? hf hj hitems)
  | @obj fields hj =>
    rw [settleWith?] at h
    split at h
    · -- the document is replaced by the one that was read from its text
      obtain ⟨text, -, h⟩ := Option.bind_eq_some_iff.mp h
      exact hf text k h
    · rename_i hfirst
      obtain ⟨values, hvalues, rfl⟩ := Option.map_eq_some_iff.mp h
      obtain ⟨hkeys, hsettled⟩ := settled_of_settleValues? hf hj hvalues
      refine .obj (nodup_keys_settleFields values) ?_ fun v hv =>
        hsettled v (mem_of_mem_settleFields hv)
      rw [isEmbedded_eq, head?_keys_settleFields, hkeys, ← isEmbedded_eq, ← Bool.not_eq_true]
      exact hfirst

theorem settled_of_settleItems? {f : String → Option Json}
    (hf : ∀ s k, f s = some k → Settled k) {items ks : List Json}
    (hitems : ∀ j ∈ items, Representable j) (h : settleItems? f items = some ks) :
    ∀ k ∈ ks, Settled k := by
  cases items with
  | nil => cases h; exact fun k hk => nomatch hk
  | cons j items =>
    rw [settleItems?] at h
    simp only [Option.bind_eq_bind, Option.bind_eq_some_iff, Option.pure_def,
      Option.some.injEq] at h
    obtain ⟨k, hk, ks, hks, rfl⟩ := h
    exact List.forall_mem_cons.mpr ⟨settled_of_settleWith? hf (hitems j List.mem_cons_self) hk,
      settled_of_settleItems? hf (fun j hj => hitems j (List.mem_cons_of_mem _ hj)) hks⟩

theorem settled_of_settleValues? {f : String → Option Json}
    (hf : ∀ s k, f s = some k → Settled k) {fields vs : List (String × Json)}
    (hfields : ∀ v ∈ fields, Representable v.2) (h : settleValues? f fields = some vs) :
    keys vs = keys fields ∧ ∀ v ∈ vs, Settled v.2 := by
  cases fields with
  | nil => cases h; exact ⟨rfl, fun v hv => nomatch hv⟩
  | cons v fields =>
    rw [settleValues?] at h
    simp only [Option.bind_eq_bind, Option.bind_eq_some_iff, Option.pure_def,
      Option.some.injEq] at h
    obtain ⟨k, hk, vs, hvs, rfl⟩ := h
    obtain ⟨hkeys, hsettled⟩ := settled_of_settleValues? hf
      (fun v hv => hfields v (List.mem_cons_of_mem _ hv)) hvs
    exact ⟨by rw [keys_cons, keys_cons, hkeys], List.forall_mem_cons.mpr
      ⟨settled_of_settleWith? hf (hfields v List.mem_cons_self) hk, hsettled⟩⟩

end

/-! ## What is read -/

theorem representable_of_ofParts? {negative : Bool} {whole : List Char}
    {fraction : Option (List Char)} {exponent : Option Int} {j : Json}
    (h : ofParts? negative whole fraction exponent = some j) : j.Representable := by
  unfold ofParts? at h
  extract_lets digits value x at h
  split at h
  · rename_i hint
    simp only [Bool.and_eq_true] at hint
    cases h
    exact .int hint.1.2
  · split at h
    · rename_i hx
      cases h
      exact .float hx
    · cases h

theorem inherited_representable (n : Nat) : Inherited n Representable where
  null := .null
  bool := .bool
  number := representable_of_ofParts?
  str {s} _ := .str s
  arr := .arr
  obj := .obj

/-- The numbers of a document that is read can be held. -/
theorem representable_of_read? {text : String} {j : Json} {rest : List Char}
    (h : read? text = some (j, rest)) : j.Representable :=
  inherits_of_read? (inherited_representable text.length) (Nat.le_succ _) h

/-- What is read of a text is settled. -/
theorem settled_of_ofTextWithin? (depth : Nat) (text : String) (j : Json)
    (h : ofTextWithin? depth text = some j) : j.Settled := by
  induction depth generalizing text j with
  | zero => cases h
  | succ depth ih =>
    rw [ofTextWithin?] at h
    split at h
    · rename_i hread
      split at h
      · exact settled_of_settleWith? ih (representable_of_read? hread) h
      · cases h
    · cases h

theorem settle?_eq_self {j : Json} (h : j.Settled) : j.settle? = some j :=
  settleWith?_eq_self ofText? h.keysOnce h.embedsNone

end RowFilter.Json
