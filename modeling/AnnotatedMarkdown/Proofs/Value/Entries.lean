import AnnotatedMarkdown.Value.Basic
import Mathlib.Data.List.Induction
import Mathlib.Data.List.Nodup

/-!
# Mappings with texts for keys

The keys of metadata are texts, and two texts are equal as keys only if they are the same
text.  This module says what setting such keys does to a mapping.

* One key.  `keys_put_of_mem` and `put_of_not_mem` are the two cases of `Entries.put`: the value
  of a key that is there is replaced, and a new key comes last.
* Several keys.  `exists_keys_putAll` says which keys are added, and in which order, and
  `exists_of_mem_putAll` where the values come from.
* `Entries.IsNamed` holds of mappings whose keys are different texts.  Setting texts keeps it,
  and `IsNamed.ofList_eq` says that such a mapping results from setting its own keys.
* `Entries.collapse` says which mapping results if names occur several times:
  `ofList_map_eq_collapse` shows it of setting the names one after the other.
-/

namespace AnnotatedMarkdown

theorem Value.same_str_iff {key : Value} {name : Text} :
    key.same (.str name) = true ↔ key = .str name := by
  cases key <;> simp [Value.same, Value.sameScalar, Value.integer?]

/-- Whether a value is a text. -/
def Value.isText : Value → Bool
  | .str _ => true
  | _ => false

theorem Value.isText_iff {v : Value} : v.isText = true ↔ ∃ name, v = .str name := by
  cases v <;> simp [Value.isText]

namespace Entries

variable {entries : Entries}

@[simp] theorem keys_nil : keys [] = [] :=
  rfl

@[simp] theorem keys_cons (e : Entry) (entries : Entries) : keys (e :: entries) = e.key :: entries.keys :=
  rfl

@[simp] theorem keys_append (before after : Entries) :
    keys (before ++ after) = before.keys ++ after.keys :=
  List.map_append

/-- Whether all keys are texts. -/
def isTextual (entries : Entries) : Bool :=
  entries.all fun e => e.key.isText

theorem isTextual_iff : entries.isTextual = true ↔ ∀ e ∈ entries, ∃ name, e.key = .str name := by
  unfold isTextual
  rw [List.all_eq_true]
  simp only [Value.isText_iff]

theorem isTextual_cons_iff {e : Entry} :
    isTextual (e :: entries) = true ↔
      (∃ name v, e = .mk (.str name) v) ∧ entries.isTextual = true := by
  unfold isTextual
  rw [List.all_cons, Bool.and_eq_true]
  apply and_congr_left
  intro _
  obtain ⟨k, v⟩ := e
  simp [Entry.key, Value.isText_iff]

/-! ## Setting one key -/

theorem put_of_same {k key v w : Value} (h : k.same key = true) :
    put key v (.mk k w :: entries) = .mk k v :: entries := by
  simp [put, h]

theorem put_of_not_same {k key v w : Value} (h : ¬ k.same key = true) :
    put key v (.mk k w :: entries) = .mk k w :: entries.put key v := by
  simp [put, h]

theorem exists_key_of_mem_put {key v : Value} {e : Entry} (h : e ∈ entries.put key v) :
    e.key = key ∨ ∃ d ∈ entries, e.key = d.key := by
  induction entries with
  | nil =>
    obtain rfl := List.mem_singleton.1 h
    exact Or.inl rfl
  | cons d entries ih =>
    obtain ⟨k, w⟩ := d
    by_cases hsame : k.same key = true
    · rw [put_of_same hsame] at h
      rcases List.mem_cons.1 h with rfl | h
      · exact Or.inr ⟨.mk k w, by simp, rfl⟩
      · exact Or.inr ⟨e, List.mem_cons_of_mem _ h, rfl⟩
    · rw [put_of_not_same hsame] at h
      rcases List.mem_cons.1 h with rfl | h
      · exact Or.inr ⟨.mk k w, by simp, rfl⟩
      · rcases ih h with h | ⟨d, hd, h⟩
        · exact Or.inl h
        · exact Or.inr ⟨d, List.mem_cons_of_mem _ hd, h⟩

variable {name : Text}

/-- A value of a mapping in which a key has been set is the new one, or was there before. -/
theorem exists_of_mem_put {key v : Value} {e : Entry} (h : e ∈ entries.put key v) :
    e.value = v ∨ ∃ d ∈ entries, e.value = d.value := by
  induction entries with
  | nil =>
    rw [put, List.mem_singleton] at h
    exact Or.inl (congrArg Entry.value h)
  | cons d entries ih =>
    obtain ⟨k, w⟩ := d
    by_cases hsame : k.same key = true
    · rw [put_of_same hsame] at h
      rcases List.mem_cons.1 h with rfl | h
      · exact Or.inl rfl
      · exact Or.inr ⟨e, List.mem_cons_of_mem _ h, rfl⟩
    · rw [put_of_not_same hsame] at h
      rcases List.mem_cons.1 h with rfl | h
      · exact Or.inr ⟨_, List.mem_cons_self, rfl⟩
      · rcases ih h with hv | ⟨d, hd, hvalue⟩
        · exact Or.inl hv
        · exact Or.inr ⟨d, List.mem_cons_of_mem _ hd, hvalue⟩

/-- A key that is there keeps its place. -/
theorem keys_put_of_mem (h : .str name ∈ entries.keys) (v : Value) :
    (entries.put (.str name) v).keys = entries.keys := by
  induction entries with
  | nil => simp at h
  | cons e entries ih =>
    obtain ⟨k, w⟩ := e
    by_cases hsame : k.same (.str name) = true
    · rw [put_of_same hsame]
      rfl
    · have hne : ¬ .str name = k := fun heq => hsame (Value.same_str_iff.2 heq.symm)
      have hrest : .str name ∈ keys entries := (List.mem_cons.1 h).resolve_left hne
      rw [put_of_not_same hsame, keys_cons, ih hrest, keys_cons]

/-- A new key comes last. -/
theorem put_of_not_mem (h : .str name ∉ entries.keys) (v : Value) :
    entries.put (.str name) v = entries ++ [.mk (.str name) v] := by
  induction entries with
  | nil => rfl
  | cons e entries ih =>
    obtain ⟨k, w⟩ := e
    have hsame : ¬ k.same (.str name) = true := by
      intro hsame
      apply h
      rw [Value.same_str_iff.1 hsame]
      exact List.mem_cons_self
    have hrest : .str name ∉ keys entries := fun hmem => h (List.mem_cons_of_mem k hmem)
    rw [put_of_not_same hsame, ih hrest]
    rfl

theorem mem_keys_put {key v : Value} :
    key ∈ (entries.put (.str name) v).keys ↔ key ∈ entries.keys ∨ key = .str name := by
  by_cases h : .str name ∈ entries.keys
  · rw [keys_put_of_mem h]
    constructor
    · exact Or.inl
    · rintro (hkey | rfl)
      · exact hkey
      · exact h
  · rw [put_of_not_mem h, keys_append, List.mem_append]
    simp [Entry.key]

theorem get?_put_self (name : Text) (v : Value) (entries : Entries) :
    (entries.put (.str name) v).get? (.str name) = some v := by
  induction entries with
  | nil => simp [put, get?, Value.same_str_iff]
  | cons e entries ih =>
    obtain ⟨k, w⟩ := e
    by_cases hsame : k.same (.str name) = true
    · rw [put_of_same hsame, get?, if_pos hsame]
    · rw [put_of_not_same hsame, get?, if_neg hsame, ih]

theorem mem_keys_of_get?_eq_some {v : Value} (h : entries.get? (.str name) = some v) :
    .str name ∈ entries.keys := by
  induction entries with
  | nil => cases h
  | cons e entries ih =>
    obtain ⟨k, w⟩ := e
    by_cases hsame : k.same (.str name) = true
    · rw [Value.same_str_iff.1 hsame]
      exact List.mem_cons_self
    · rw [get?, if_neg hsame] at h
      exact List.mem_cons_of_mem k (ih h)

/-- Other keys keep their values. -/
theorem get?_put_of_key_ne {other : Text} {key : Value} (h : key ≠ .str other) (v : Value)
    (entries : Entries) : (entries.put (.str other) v).get? key = entries.get? key := by
  have hother : ¬ (Value.str other).same key = true := by
    cases key <;> simp [Value.same, Value.sameScalar, Value.integer?]
    exact fun heq => h (congrArg Value.str heq.symm)
  induction entries with
  | nil => exact if_neg hother
  | cons e entries ih =>
    obtain ⟨k, w⟩ := e
    by_cases hsame : k.same (.str other) = true
    · have hkey : ¬ k.same key = true := by
        rw [Value.same_str_iff.1 hsame]
        exact hother
      rw [put_of_same hsame, get?, if_neg hkey, get?, if_neg hkey]
    · rw [put_of_not_same hsame, get?, get?, ih]

theorem get?_put_of_ne {other : Text} (h : other ≠ name) (v : Value) (entries : Entries) :
    (entries.put (.str other) v).get? (.str name) = entries.get? (.str name) :=
  get?_put_of_key_ne (fun heq => h (Value.str.inj heq).symm) v entries

/-- Setting a key adds it behind all others, unless it is there. -/
theorem exists_keys_put (name : Text) (v : Value) (entries : Entries) :
    ∃ added, (entries.put (.str name) v).keys = entries.keys ++ added ∧
      added.Sublist [.str name] ∧ ∀ key ∈ added, key ∉ entries.keys := by
  by_cases h : .str name ∈ entries.keys
  · refine ⟨[], ?_, List.nil_sublist _, by simp⟩
    rw [keys_put_of_mem h, List.append_nil]
  · refine ⟨[.str name], ?_, List.Sublist.refl _, by simpa using h⟩
    rw [put_of_not_mem h, keys_append]
    rfl

/-! ## Setting several keys -/

variable {before after : Entries}

theorem putAll_cons (before after : Entries) (e : Entry) :
    before.putAll (e :: after) = (before.put e.key e.value).putAll after :=
  rfl

theorem putAll_append (before first more : Entries) :
    before.putAll (first ++ more) = (before.putAll first).putAll more :=
  List.foldl_append

/-- Setting keys keeps those that are there, and adds some of the new ones in their order. -/
theorem exists_keys_putAll (before : Entries) (h : after.isTextual = true) :
    ∃ added, (before.putAll after).keys = before.keys ++ added ∧ added.Sublist after.keys := by
  induction after generalizing before with
  | nil => exact ⟨[], (List.append_nil _).symm, List.Sublist.refl _⟩
  | cons e after ih =>
    obtain ⟨⟨name, v, rfl⟩, hafter⟩ := isTextual_cons_iff.1 h
    obtain ⟨added, hkeys, hsub⟩ := ih (before.put (.str name) v) hafter
    by_cases hmem : .str name ∈ before.keys
    · refine ⟨added, ?_, hsub.cons _⟩
      rw [putAll_cons, Entry.key, Entry.value, hkeys, keys_put_of_mem hmem]
    · refine ⟨.str name :: added, ?_, hsub.cons_cons _⟩
      rw [putAll_cons, Entry.key, Entry.value, hkeys, put_of_not_mem hmem, keys_append,
        List.append_assoc]
      rfl

theorem mem_keys_putAll (h : after.isTextual = true) {key : Value} :
    key ∈ (before.putAll after).keys ↔ key ∈ before.keys ∨ key ∈ after.keys := by
  induction after generalizing before with
  | nil => simp [putAll]
  | cons e after ih =>
    obtain ⟨⟨name, v, rfl⟩, hafter⟩ := isTextual_cons_iff.1 h
    rw [putAll_cons, ih hafter, Entry.key, Entry.value, mem_keys_put, keys_cons, List.mem_cons,
      Entry.key, or_assoc]

theorem exists_of_mem_putAll {e : Entry} (h : e ∈ before.putAll after) :
    ∃ d ∈ before ++ after, e.value = d.value := by
  induction after generalizing before with
  | nil =>
    rw [List.append_nil]
    exact ⟨e, h, rfl⟩
  | cons u after ih =>
    rw [putAll_cons] at h
    obtain ⟨d, hd, hvalue⟩ := ih h
    rcases List.mem_append.1 hd with hd | hd
    · rcases exists_of_mem_put hd with hu | ⟨c, hc, hcd⟩
      · exact ⟨u, List.mem_append_right _ List.mem_cons_self, hvalue.trans hu⟩
      · exact ⟨c, List.mem_append_left _ hc, hvalue.trans hcd⟩
    · exact ⟨d, List.mem_append_right _ (List.mem_cons_of_mem _ hd), hvalue⟩

theorem exists_of_mem_ofList {e : Entry} (h : e ∈ ofList after) : ∃ d ∈ after, e.value = d.value := by
  simpa using exists_of_mem_putAll h

/-! ## Different texts -/

theorem isTextual_put (h : entries.isTextual = true) (name : Text) (v : Value) :
    (entries.put (.str name) v).isTextual = true := by
  rw [isTextual_iff] at h ⊢
  intro e he
  rcases exists_key_of_mem_put he with hkey | ⟨d, hd, hkey⟩
  · exact ⟨name, hkey⟩
  · rw [hkey]
    exact h d hd

theorem isTextual_putAll (h : before.isTextual = true) (hafter : after.isTextual = true) :
    (before.putAll after).isTextual = true := by
  induction after generalizing before with
  | nil => exact h
  | cons e after ih =>
    obtain ⟨⟨name, v, rfl⟩, hrest⟩ := isTextual_cons_iff.1 hafter
    exact ih (isTextual_put h name v) hrest

/-- The keys are different texts. -/
structure IsNamed (entries : Entries) : Prop where
  textual : entries.isTextual = true
  distinct : entries.keys.Nodup

theorem isNamed_nil : IsNamed [] where
  textual := rfl
  distinct := List.nodup_nil

theorem IsNamed.put (h : entries.IsNamed) (name : Text) (v : Value) :
    (entries.put (.str name) v).IsNamed where
  textual := isTextual_put h.textual name v
  distinct := by
    by_cases hmem : .str name ∈ entries.keys
    · rw [keys_put_of_mem hmem]
      exact h.distinct
    · rw [put_of_not_mem hmem, keys_append]
      exact h.distinct.append (List.nodup_singleton _) (by simpa [Entry.key] using hmem)

theorem IsNamed.putAll (h : before.IsNamed) (hafter : after.isTextual = true) :
    (before.putAll after).IsNamed := by
  induction after generalizing before with
  | nil => exact h
  | cons e after ih =>
    obtain ⟨⟨name, v, rfl⟩, hrest⟩ := isTextual_cons_iff.1 hafter
    exact ih (h.put name v) hrest

theorem isNamed_ofList (h : entries.isTextual = true) : (ofList entries).IsNamed :=
  isNamed_nil.putAll h

/-- Entries with different texts for keys are all kept, in their order. -/
theorem putAll_eq_append (h : IsNamed (before ++ after)) : before.putAll after = before ++ after := by
  induction after generalizing before with
  | nil => rw [List.append_nil]; rfl
  | cons e after ih =>
    obtain ⟨k, v⟩ := e
    obtain ⟨name, rfl⟩ : ∃ name, k = .str name :=
      isTextual_iff.1 h.textual (.mk k v) (List.mem_append_right before List.mem_cons_self)
    have hnew : .str name ∉ before.keys := by
      intro hmem
      have hdistinct := h.distinct
      rw [keys_append, List.nodup_append] at hdistinct
      exact hdistinct.2.2 _ hmem _ List.mem_cons_self rfl
    have hjoin : before ++ .mk (.str name) v :: after = (before ++ [.mk (.str name) v]) ++ after := by
      simp
    rw [hjoin] at h ⊢
    rw [← ih h, ← put_of_not_mem hnew]
    rfl

theorem IsNamed.ofList_eq (h : entries.IsNamed) : ofList entries = entries := by
  have hnil : IsNamed ([] ++ entries) := h
  exact putAll_eq_append hnil

/-! ## Names that occur several times -/

/-- The entries of names with values that depend on the name. -/
def ofNames (names : List Text) (value : Text → Value) : Entries :=
  names.map fun name => .mk (.str name) (value name)

/-- The value of the last field of a name. -/
def lastValue (fields : List (Text × Value)) (name : Text) : Value :=
  (fields.reverse.lookup name).getD .none

/-- The mapping that fields with names collapse to: every name stands where it occurs first,
with the value of the last field that has it. -/
def collapse (fields : List (Text × Value)) : Entries :=
  ofNames (fields.map Prod.fst).eraseDups (lastValue fields)

@[simp] theorem keys_ofNames (names : List Text) (value : Text → Value) :
    (ofNames names value).keys = names.map .str := by
  simp [keys, ofNames, Entry.key]

theorem str_mem_keys_ofNames {names : List Text} {value : Text → Value} :
    .str name ∈ (ofNames names value).keys ↔ name ∈ names := by
  simp

theorem ofNames_cons (first : Text) (names : List Text) (value : Text → Value) :
    ofNames (first :: names) value = .mk (.str first) (value first) :: ofNames names value :=
  rfl

theorem ofNames_append (names more : List Text) (value : Text → Value) :
    ofNames (names ++ more) value = ofNames names value ++ ofNames more value :=
  List.map_append

/-- The values of other names do not matter. -/
theorem ofNames_update_of_not_mem {names : List Text} (h : name ∉ names) (value : Text → Value)
    (v : Value) : ofNames names (Function.update value name v) = ofNames names value := by
  apply List.map_congr_left
  intro other hother
  have hne : other ≠ name := fun heq => h (heq ▸ hother)
  rw [Function.update_of_ne hne]

theorem put_ofNames_of_mem {names : List Text} (hnodup : names.Nodup) (hmem : name ∈ names)
    (value : Text → Value) (v : Value) :
    (ofNames names value).put (.str name) v = ofNames names (Function.update value name v) := by
  induction names with
  | nil => simp at hmem
  | cons first names ih =>
    obtain ⟨hfirst, hnodup⟩ := List.nodup_cons.1 hnodup
    rw [ofNames_cons, ofNames_cons]
    by_cases hname : first = name
    · subst hname
      rw [put_of_same (Value.same_str_iff.2 rfl), ofNames_update_of_not_mem hfirst,
        Function.update_self]
    · have hsame : ¬ (Value.str first).same (.str name) = true := by simpa [Value.same_str_iff]
      have hrest : name ∈ names := (List.mem_cons.1 hmem).resolve_left (Ne.symm hname)
      rw [put_of_not_same hsame, ih hnodup hrest, Function.update_of_ne hname]

theorem nodup_eraseDups {α : Type} [BEq α] [LawfulBEq α] : (as : List α) → as.eraseDups.Nodup
  | [] => by simp
  | a :: as => by
    rw [List.eraseDups_cons, List.nodup_cons]
    exact ⟨by simp, nodup_eraseDups _⟩
termination_by as => as.length
decreasing_by
  exact Nat.lt_succ_of_le (List.length_filter_le _ _)

theorem lastValue_concat (fields : List (Text × Value)) (name : Text) (v : Value) :
    lastValue (fields ++ [(name, v)]) = Function.update (lastValue fields) name v := by
  funext other
  unfold lastValue
  rw [List.reverse_concat, List.lookup_cons]
  by_cases hname : other = name
  · subst hname
    simp
  · rw [beq_false_of_ne hname, Function.update_of_ne hname]

/-- Setting a name adds a field behind those that are there. -/
theorem collapse_concat (fields : List (Text × Value)) (name : Text) (v : Value) :
    collapse (fields ++ [(name, v)]) = (collapse fields).put (.str name) v := by
  unfold collapse
  rw [List.map_append, List.eraseDups_append, lastValue_concat]
  by_cases hmem : name ∈ fields.map Prod.fst
  · have hnone : List.removeAll [name] (fields.map Prod.fst) = [] := by
      simpa [List.removeAll] using hmem
    rw [List.map_singleton, hnone, List.eraseDups_nil, List.append_nil,
      put_ofNames_of_mem (nodup_eraseDups _) (List.mem_eraseDups.2 hmem)]
  · have hself : List.removeAll [name] (fields.map Prod.fst) = [name] := by
      simpa [List.removeAll] using hmem
    have hnew : name ∉ (fields.map Prod.fst).eraseDups := by rwa [List.mem_eraseDups]
    rw [List.map_singleton, hself, ofNames_append, ofNames_update_of_not_mem hnew,
      put_of_not_mem (by rwa [str_mem_keys_ofNames])]
    simp [ofNames, List.eraseDups_cons]

/-- Setting the names of fields one after the other collapses the fields. -/
theorem ofList_map_eq_collapse (fields : List (Text × Value)) :
    ofList (fields.map fun field => .mk (.str field.1) field.2) = collapse fields := by
  induction fields using List.reverseRecOn with
  | nil => rfl
  | append_singleton fields field ih =>
    obtain ⟨name, v⟩ := field
    rw [collapse_concat, ← ih, List.map_append, ofList, putAll_append]
    rfl

end Entries

end AnnotatedMarkdown
