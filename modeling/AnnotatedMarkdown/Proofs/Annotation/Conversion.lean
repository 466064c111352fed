import AnnotatedMarkdown.Proofs.Annotation.FieldName
import AnnotatedMarkdown.Proofs.Value.Containment

/-!
# What metadata blocks become

The conversion of a block reads its document from the outside to the inside and stops at the
first special field whose value is not an expression.  Here it is compared with what can be
said of the document without an order.

* `Value.converted` is what a value becomes: mappings collapse under the names of their fields,
  sequences keep their items, and everything else stays what it is.
* `HasMisuse` holds of a document if a mapping that is a part of it has a special field with
  null, a sequence or a mapping for its value.
* `ofValue_eq_ok` and `ofValue_eq_error` join both to the conversion, and `Record.entity_eq_ok`,
  `Record.entity_eq_error` carry this over to records.
* `Value.isPlainData` holds of documents of mappings, sequences and scalars that have a text.
  For these `entity_of_isPlainData` says exactly which records have metadata, and which.
-/

namespace AnnotatedMarkdown

open Outcome

namespace Yaml

/-- A document stands for the value that its nodes are built into. -/
theorem load_of_node {t : Text} {cs : List Char} {n : Node} (hchars : t.chars? = some cs)
    (hallowed : cs.all isAllowed = true)
    (hn : (tokensOf cs >>= Node.ofTokens?) = .ok (some n)) :
    load t = n.merged.build.mapError Prod.snd := by
  obtain ⟨tokens, htokens, hn⟩ := bind_eq_ok.1 hn
  exact load_of_ofTokens? hchars hallowed htokens hn

end Yaml

/-! ## Converted values -/

/-- The text of a value that has one. -/
def Value.plainText (v : Value) : Text :=
  v.plain.getD []

theorem Value.plainText_of_plain {v : Value} {t : Text} (h : v.plain = some t) :
    v.plainText = t := by
  rw [plainText, h, Option.getD_some]

mutual

/-- What a value becomes in metadata. -/
def Value.converted : Value → Value
  | .dict entries => .dict (Entries.collapse (convertedFields entries))
  | .list items => .list (convertedItems items)
  | v => v

/-- The fields that the entries of a mapping become, one for each entry. -/
def convertedFields : List Entry → List (Text × Value)
  | [] => []
  | .mk k v :: entries =>
    (Field.name k.plainText,
      if Field.isSpecial k.plainText then .deferred v.plainText else v.converted) ::
        convertedFields entries

/-- What the items of a sequence become. -/
def convertedItems : List Value → List Value
  | [] => []
  | v :: vs => v.converted :: convertedItems vs

end

/-- The entries of a document that can be metadata: null has none. -/
def Value.fields? : Value → Option (List Entry)
  | .none => some []
  | .dict entries => some entries
  | _ => Option.none

/-! ## Misused special fields -/

/-- Whether a value is null, a sequence or a mapping, of which none is the text of an
expression. -/
def Value.isUnwritten : Value → Bool
  | .none => true
  | .list _ => true
  | .dict _ => true
  | _ => false

/-- A special field has a value that is not the text of an expression. -/
structure Entry.IsMisused (e : Entry) : Prop where
  special : ∃ written, e.written? = some written ∧ Field.isSpecial written = true
  unwritten : e.value.isUnwritten = true

/-- A value is a part of another one, which is reached through its mappings and sequences. -/
inductive IsPart (part : Value) : Value → Prop where
  | whole : IsPart part part
  | item {items : List Value} {v : Value} : v ∈ items → IsPart part v → IsPart part (.list items)
  | field {entries : List Entry} {e : Entry} :
      e ∈ entries → IsPart part e.value → IsPart part (.dict entries)

/-- A special field is misused at some depth. -/
def HasMisuse (v : Value) : Prop :=
  ∃ entries, IsPart (.dict entries) v ∧ ∃ e ∈ entries, e.IsMisused

theorem hasMisuse_dict_iff {entries : List Entry} :
    HasMisuse (.dict entries) ↔ ∃ e ∈ entries, e.IsMisused ∨ HasMisuse e.value := by
  constructor
  · rintro ⟨inner, hpart, e, he, hmisused⟩
    cases hpart with
    | whole => exact ⟨e, he, Or.inl hmisused⟩
    | field hd hpart => exact ⟨_, hd, Or.inr ⟨inner, hpart, e, he, hmisused⟩⟩
  · rintro ⟨e, he, hmisused | ⟨inner, hpart, hmisused⟩⟩
    · exact ⟨entries, .whole, e, he, hmisused⟩
    · exact ⟨inner, .field he hpart, hmisused⟩

theorem hasMisuse_list_iff {items : List Value} :
    HasMisuse (.list items) ↔ ∃ v ∈ items, HasMisuse v := by
  constructor
  · rintro ⟨inner, hpart, hmisused⟩
    cases hpart with
    | item hv hpart => exact ⟨_, hv, inner, hpart, hmisused⟩
  · rintro ⟨v, hv, inner, hpart, hmisused⟩
    exact ⟨inner, .item hv hpart, hmisused⟩

/-- Mappings are parts of mappings and of sequences only. -/
theorem not_hasMisuse {v : Value} (hdict : ∀ entries, v ≠ .dict entries)
    (hlist : ∀ items, v ≠ .list items) : ¬ HasMisuse v := by
  rintro ⟨inner, hpart, -⟩
  cases hpart with
  | whole => exact hdict inner rfl
  | item => exact hlist _ rfl
  | field => exact hdict _ rfl

/-! ## Plain data -/

mutual

/-- Whether a value is built from mappings, sequences and scalars only, with no integer that is
too long to be written. -/
def Value.isPlainData : Value → Bool
  | .int n => (decimalText? n).isSome
  | .list items => arePlainData items
  | .dict entries => holdsPlainData entries
  | .tuple _ | .set _ | .deferred _ | .raw _ _ | .object _ _ => false
  | _ => true

/-- Whether values are plain data. -/
def arePlainData : List Value → Bool
  | [] => true
  | v :: vs => v.isPlainData && arePlainData vs

/-- Whether the keys and the values of entries are plain data. -/
def holdsPlainData : List Entry → Bool
  | [] => true
  | .mk k v :: entries => k.isPlainData && v.isPlainData && holdsPlainData entries

end

theorem isPlainData_of_mem {vs : List Value} (h : arePlainData vs = true) {v : Value}
    (hv : v ∈ vs) : v.isPlainData = true := by
  induction vs with
  | nil => cases hv
  | cons w ws ih =>
    simp only [arePlainData, Bool.and_eq_true] at h
    rcases List.mem_cons.1 hv with rfl | hv
    · exact h.1
    · exact ih h.2 hv

theorem isPlainData_of_mem_entries {es : List Entry} (h : holdsPlainData es = true) {e : Entry}
    (he : e ∈ es) : e.key.isPlainData = true ∧ e.value.isPlainData = true := by
  induction es with
  | nil => cases he
  | cons d es ih =>
    obtain ⟨k, v⟩ := d
    simp only [holdsPlainData, Bool.and_eq_true] at h
    rcases List.mem_cons.1 he with rfl | he
    · exact h.1
    · exact ih h.2 he

theorem isPlainData_of_isWithin {u v : Value} (huv : u.IsWithin v) (h : v.isPlainData = true) :
    u.isPlainData = true := by
  induction huv with
  | whole => exact h
  | list hmem _ ih => exact ih (isPlainData_of_mem h hmem)
  | tuple | set => cases h
  | key hmem _ ih => exact ih (isPlainData_of_mem_entries h hmem).1
  | value hmem _ ih => exact ih (isPlainData_of_mem_entries h hmem).2

/-- The integers of plain data can be written. -/
theorem not_hasLongInteger_of_isPlainData {v : Value} (h : v.isPlainData = true) :
    ¬ v.HasLongInteger := by
  rintro ⟨n, hn, hlong⟩
  have hsome : (decimalText? n).isSome = true := isPlainData_of_isWithin hn h
  rw [hlong] at hsome
  cases hsome

/-! ## Conversion -/

namespace Metadata

theorem deferredValue_of_isUnwritten {v : Value} (h : v.isUnwritten = true) (name : Text) :
    deferredValue name v = .error (.cause (.specialField name)) := by
  cases v with
  | none | list _ | dict _ => rfl
  | _ => simp [Value.isUnwritten] at h

/-- A value that can be the text of an expression is, unless it has no text. -/
theorem deferredValue_of_not_isUnwritten {v : Value} (h : v.isUnwritten = false) (name : Text) :
    deferredValue name v =
      match v.plain with
      | some source => .ok (.deferred source)
      | none => .error (.defect .tooManyDigits) := by
  cases v with
  | none | list _ | dict _ => simp [Value.isUnwritten] at h
  | _ => rfl

/-- No part of a value that an expression can have is a mapping. -/
theorem not_hasMisuse_of_isUnwritten {v : Value} (h : v.isUnwritten = false) : ¬ HasMisuse v := by
  apply not_hasMisuse
  · rintro entries rfl
    cases h
  · rintro items rfl
    cases h

theorem deferredValue_eq_ok {name : Text} {v w : Value} (h : deferredValue name v = .ok w) :
    w = .deferred v.plainText ∧ v.isUnwritten = false := by
  cases hunwritten : v.isUnwritten with
  | true =>
    rw [deferredValue_of_isUnwritten hunwritten] at h
    cases h
  | false =>
    cases hplain : v.plain with
    | some source =>
      rw [deferredValue_of_not_isUnwritten hunwritten, hplain] at h
      cases h
      rw [Value.plainText_of_plain hplain]
      exact ⟨rfl, rfl⟩
    | none =>
      rw [deferredValue_of_not_isUnwritten hunwritten, hplain] at h
      cases h

/-- The entry of a field in metadata. -/
def fieldEntry (field : Text × Value) : Entry :=
  .mk (.str field.1) field.2

mutual

/-- A value that can be converted has no misused field, and becomes what it has to. -/
theorem ofValue_eq_ok :
    (v : Value) → ∀ {w : Value}, ofValue v = .ok w → w = v.converted ∧ ¬ HasMisuse v
  | .dict entries, w, h => by
    rw [ofValue] at h
    obtain ⟨es, hes, rfl⟩ := map_eq_ok.1 h
    obtain ⟨rfl, hproper⟩ := ofEntries_eq_ok entries hes
    refine ⟨by rw [Value.converted, ← Entries.ofList_map_eq_collapse]; rfl, ?_⟩
    rw [hasMisuse_dict_iff]
    rintro ⟨e, he, hmisuse⟩
    exact hproper e he hmisuse
  | .list items, w, h => by
    rw [ofValue] at h
    obtain ⟨vs, hvs, rfl⟩ := map_eq_ok.1 h
    obtain ⟨rfl, hproper⟩ := ofItems_eq_ok items hvs
    refine ⟨rfl, ?_⟩
    rw [hasMisuse_list_iff]
    rintro ⟨v, hv, hmisuse⟩
    exact hproper v hv hmisuse
  | .none, w, h | .bool _, w, h | .str _, w, h | .int _, w, h | .float _, w, h | .bytes _, w, h
  | .date _, w, h | .dateTime _, w, h | .tuple _, w, h | .set _, w, h | .deferred _, w, h
  | .raw _ _, w, h | .object _ _, w, h => by
    cases h
    exact ⟨rfl, not_hasMisuse nofun nofun⟩

theorem ofEntries_eq_ok :
    (es : List Entry) → ∀ {fields : Entries}, ofEntries es = .ok fields →
      fields = (convertedFields es).map fieldEntry ∧
        ∀ e ∈ es, ¬ (e.IsMisused ∨ HasMisuse e.value)
  | [], fields, h => by
    cases h
    exact ⟨rfl, by simp⟩
  | .mk k v :: es, fields, h => by
    obtain ⟨written, value, rest, hplain, hvalue, hrest, rfl⟩ := ofEntries_cons_eq_ok h
    obtain ⟨rfl, hproper⟩ := ofEntries_eq_ok es hrest
    rw [convertedFields, Value.plainText_of_plain hplain, List.map_cons, fieldEntry]
    unfold fieldValue at hvalue
    rw [List.forall_mem_cons]
    -- The value of a special field is not read any further, that of another one is.
    by_cases hspecial : Field.isSpecial written = true
    · rw [if_pos hspecial] at hvalue
      obtain ⟨rfl, hwritten⟩ := deferredValue_eq_ok hvalue
      rw [if_pos hspecial]
      refine ⟨rfl, ?_, hproper⟩
      rintro (hmisused | hmisuse)
      · exact Bool.false_ne_true (hwritten.symm.trans hmisused.unwritten)
      · exact not_hasMisuse_of_isUnwritten hwritten hmisuse
    · rw [if_neg hspecial] at hvalue
      obtain ⟨rfl, hmisuse⟩ := ofValue_eq_ok v hvalue
      rw [if_neg hspecial]
      refine ⟨rfl, ?_, hproper⟩
      rintro (hmisused | hmisuse')
      · obtain ⟨other, hother, hspecial'⟩ := hmisused.special
        rw [Entry.written?, Entry.key, hplain] at hother
        cases hother
        exact hspecial hspecial'
      · exact hmisuse hmisuse'

theorem ofItems_eq_ok :
    (vs : List Value) → ∀ {ws : List Value}, ofItems vs = .ok ws →
      ws = convertedItems vs ∧ ∀ v ∈ vs, ¬ HasMisuse v
  | [], ws, h => by
    cases h
    exact ⟨rfl, by simp⟩
  | v :: vs, ws, h => by
    rw [ofItems] at h
    obtain ⟨w, hw, h⟩ := bind_eq_ok.1 h
    obtain ⟨rest, hrest, h⟩ := bind_eq_ok.1 h
    cases h
    obtain ⟨rfl, hproper⟩ := ofValue_eq_ok v hw
    obtain ⟨rfl, hproperRest⟩ := ofItems_eq_ok vs hrest
    exact ⟨rfl, List.forall_mem_cons.2 ⟨hproper, hproperRest⟩⟩

end

/-- The faults of a conversion: a misused field, or an integer that cannot be written. -/
inductive IsFaultOf (misuse long : Prop) : MetadataFault → Prop where
  | misused (name : Text) : misuse → IsFaultOf misuse long (.cause (.specialField name))
  | unwritable : long → IsFaultOf misuse long (.defect .tooManyDigits)

theorem IsFaultOf.imp {misuse misuse' long long' : Prop} {f : MetadataFault}
    (h : IsFaultOf misuse long f) (hmisuse : misuse → misuse') (hlong : long → long') :
    IsFaultOf misuse' long' f := by
  cases h with
  | misused name hm => exact .misused name (hmisuse hm)
  | unwritable hl => exact .unwritable (hlong hl)

theorem deferredValue_eq_error {name : Text} {v : Value} {f : MetadataFault}
    (h : deferredValue name v = .error f) :
    IsFaultOf (v.isUnwritten = true) v.HasLongInteger f := by
  cases hunwritten : v.isUnwritten with
  | true =>
    rw [deferredValue_of_isUnwritten hunwritten] at h
    cases h
    exact .misused name rfl
  | false =>
    cases hplain : v.plain with
    | some source =>
      rw [deferredValue_of_not_isUnwritten hunwritten, hplain] at h
      cases h
    | none =>
      rw [deferredValue_of_not_isUnwritten hunwritten, hplain] at h
      cases h
      exact .unwritable (hasLongInteger_of_plain hplain)

mutual

/-- A value that cannot be converted has a misused field, or an integer that cannot be written. -/
theorem ofValue_eq_error :
    (v : Value) → ∀ {f : MetadataFault}, ofValue v = .error f →
      IsFaultOf (HasMisuse v) v.HasLongInteger f
  | .dict entries, f, h => by
    rw [ofValue, map_eq_error] at h
    rw [hasMisuse_dict_iff, hasLongInteger_dict_iff]
    exact ofEntries_eq_error entries h
  | .list items, f, h => by
    rw [ofValue, map_eq_error] at h
    rw [hasMisuse_list_iff, hasLongInteger_list_iff]
    exact ofItems_eq_error items h
  | .none, f, h | .bool _, f, h | .str _, f, h | .int _, f, h | .float _, f, h | .bytes _, f, h
  | .date _, f, h | .dateTime _, f, h | .tuple _, f, h | .set _, f, h | .deferred _, f, h
  | .raw _ _, f, h | .object _ _, f, h => by
    cases h

theorem ofEntries_eq_error :
    (es : List Entry) → ∀ {f : MetadataFault}, ofEntries es = .error f →
      IsFaultOf (∃ e ∈ es, e.IsMisused ∨ HasMisuse e.value)
        (∃ e ∈ es, e.key.HasLongInteger ∨ e.value.HasLongInteger) f
  | [], f, h => by
    cases h
  | .mk k v :: es, f, h => by
    cases hplain : k.plain with
    | none =>
      rw [ofEntries, hplain] at h
      cases h
      exact .unwritable ⟨_, List.mem_cons_self, Or.inl (hasLongInteger_of_plain hplain)⟩
    | some written =>
      rw [ofEntries_cons hplain] at h
      rcases bind_eq_error.1 h with h | ⟨value, -, h⟩
      · unfold fieldValue at h
        split at h
        · rename_i hspecial
          apply (deferredValue_eq_error h).imp
          · intro hunwritten
            exact ⟨_, List.mem_cons_self, Or.inl ⟨⟨written, hplain, hspecial⟩, hunwritten⟩⟩
          · intro hlong
            exact ⟨_, List.mem_cons_self, Or.inr hlong⟩
        · apply (ofValue_eq_error v h).imp
          · intro hmisuse
            exact ⟨_, List.mem_cons_self, Or.inr hmisuse⟩
          · intro hlong
            exact ⟨_, List.mem_cons_self, Or.inr hlong⟩
      · apply (ofEntries_eq_error es (map_eq_error.1 h)).imp
        · rintro ⟨e, he, hmisuse⟩
          exact ⟨e, List.mem_cons_of_mem _ he, hmisuse⟩
        · rintro ⟨e, he, hlong⟩
          exact ⟨e, List.mem_cons_of_mem _ he, hlong⟩

theorem ofItems_eq_error :
    (vs : List Value) → ∀ {f : MetadataFault}, ofItems vs = .error f →
      IsFaultOf (∃ v ∈ vs, HasMisuse v) (∃ v ∈ vs, v.HasLongInteger) f
  | [], f, h => by
    cases h
  | v :: vs, f, h => by
    rw [ofItems] at h
    rcases bind_eq_error.1 h with h | ⟨value, -, h⟩
    · apply (ofValue_eq_error v h).imp
      · intro hmisuse
        exact ⟨v, List.mem_cons_self, hmisuse⟩
      · intro hlong
        exact ⟨v, List.mem_cons_self, hlong⟩
    · rcases bind_eq_error.1 h with h | ⟨rest, -, h⟩
      · apply (ofItems_eq_error vs h).imp
        · rintro ⟨w, hw, hmisuse⟩
          exact ⟨w, List.mem_cons_of_mem _ hw, hmisuse⟩
        · rintro ⟨w, hw, hlong⟩
          exact ⟨w, List.mem_cons_of_mem _ hw, hlong⟩
      · cases h

end

/-- A block that can be converted stands for a mapping without misused fields, or for none. -/
theorem ofDocument_eq_ok {v : Value} {fields : Entries} (h : ofDocument v = .ok fields) :
    ∃ entries, v.fields? = some entries ∧ fields = .collapse (convertedFields entries) ∧
      ¬ HasMisuse v := by
  unfold ofDocument at h
  split at h
  · cases h
    exact ⟨[], rfl, rfl, not_hasMisuse nofun nofun⟩
  · rename_i entries
    obtain ⟨given, hgiven, rfl⟩ := map_eq_ok.1 h
    obtain ⟨rfl, hproper⟩ := ofEntries_eq_ok entries hgiven
    refine ⟨entries, rfl, Entries.ofList_map_eq_collapse _, ?_⟩
    rw [hasMisuse_dict_iff]
    rintro ⟨e, he, hmisuse⟩
    exact hproper e he hmisuse
  · cases h

theorem ofDocument_eq_error {v : Value} {f : MetadataFault} (h : ofDocument v = .error f) :
    (v.fields? = none ∧ ∃ typeName, f = .cause (.notMapping typeName)) ∨
      IsFaultOf (HasMisuse v) v.HasLongInteger f := by
  unfold ofDocument at h
  split at h
  · cases h
  · rename_i entries
    rw [map_eq_error] at h
    rw [hasMisuse_dict_iff, hasLongInteger_dict_iff]
    exact Or.inr (ofEntries_eq_error entries h)
  · rename_i hnone hdict
    cases h
    refine Or.inl ⟨?_, _, rfl⟩
    unfold Value.fields?
    split
    · exact absurd rfl hnone
    · exact absurd rfl (hdict _)
    · rfl

theorem ofBlock_of_load {block : Text} {v : Value} (h : Yaml.load block = .ok v) :
    ofBlock block = ofDocument v := by
  unfold ofBlock
  rw [h]

/-- The metadata that the entries of a block stand for, with a documentation. -/
def complete (entries : List Entry) (documentation : Text) : Entries :=
  .collapse (convertedFields entries ++ [(Text.ofString "documentation", .str documentation)])

end Metadata

/-! ## Records -/

section Records

variable {r : Record} {v : Value}

/-- A record has no metadata because of a given cause. -/
def Record.IsRefused (r : Record) : Prop :=
  ∃ cause, r.entity = .error (.diagnostic (.metadata cause r.reference (some r.line)))

/-- The metadata of a record are those of its document with the documentation set in them. -/
theorem entity_eq_ok (hload : Yaml.load r.metadata = .ok v) {e : Entity} (h : r.entity = .ok e) :
    ∃ entries, v.fields? = some entries ∧ ¬ HasMisuse v ∧
      e = ⟨r.reference, r.line, Metadata.complete entries r.documentation⟩ := by
  unfold Record.entity at h
  rw [Metadata.ofBlock_of_load hload] at h
  split at h
  · rename_i fields hfields
    obtain ⟨entries, hentries, rfl, hproper⟩ := Metadata.ofDocument_eq_ok hfields
    cases h
    rw [← Entries.collapse_concat]
    exact ⟨entries, hentries, hproper, rfl⟩
  · cases h
  · cases h

/-- A record without metadata has been refused, or its document has an integer that cannot be
written. -/
theorem entity_eq_error (hload : Yaml.load r.metadata = .ok v) {f : Failure}
    (h : r.entity = .error f) :
    (r.IsRefused ∧ (v.fields? = none ∨ HasMisuse v)) ∨
      (f = .defect .tooManyDigits ∧ v.HasLongInteger) := by
  unfold Record.entity at h
  rw [Metadata.ofBlock_of_load hload] at h
  unfold Record.IsRefused Record.entity
  rw [Metadata.ofBlock_of_load hload]
  cases hfault : Metadata.ofDocument v with
  | ok fields =>
    rw [hfault] at h
    cases h
  | error fault =>
    rw [hfault] at h
    rcases Metadata.ofDocument_eq_error hfault with ⟨hfields, typeName, rfl⟩ | hfaultOf
    · exact Or.inl ⟨⟨_, rfl⟩, Or.inl hfields⟩
    · cases hfaultOf with
      | misused name hmisuse => exact Or.inl ⟨⟨_, rfl⟩, Or.inr hmisuse⟩
      | unwritable hlong =>
        cases h
        exact Or.inr ⟨rfl, hlong⟩

/-- Records whose documents are mappings: what their metadata are if they have any, that
a misused field at any depth leaves them without, and that nothing does but such a field or an
integer that cannot be written. -/
theorem entity_of_mapping {entries : List Entry} (hload : Yaml.load r.metadata = .ok (.dict entries)) :
    (∀ e, r.entity = .ok e →
      e = ⟨r.reference, r.line, Metadata.complete entries r.documentation⟩) ∧
    (HasMisuse (.dict entries) →
      r.IsRefused ∨
        (r.entity = .error (.defect .tooManyDigits) ∧ (Value.dict entries).HasLongInteger)) ∧
    (¬ HasMisuse (.dict entries) → ¬ (Value.dict entries).HasLongInteger →
      r.entity = .ok ⟨r.reference, r.line, Metadata.complete entries r.documentation⟩) := by
  have hok : ∀ e, r.entity = .ok e →
      e = ⟨r.reference, r.line, Metadata.complete entries r.documentation⟩ := by
    intro e he
    obtain ⟨given, hgiven, -, rfl⟩ := entity_eq_ok hload he
    cases hgiven
    rfl
  refine ⟨hok, ?_, ?_⟩
  · intro hmisuse
    cases hentity : r.entity with
    | ok e =>
      obtain ⟨-, -, hproper, -⟩ := entity_eq_ok hload hentity
      exact absurd hmisuse hproper
    | error f =>
      rcases entity_eq_error hload hentity with ⟨hrefused, -⟩ | ⟨rfl, hlong⟩
      · exact Or.inl hrefused
      · exact Or.inr ⟨rfl, hlong⟩
  · intro hproper hshort
    cases hentity : r.entity with
    | ok e => rw [hok e hentity]
    | error f =>
      rcases entity_eq_error hload hentity with ⟨-, hnone | hmisuse⟩ | ⟨-, hlong⟩
      · cases hnone
      · exact absurd hmisuse hproper
      · exact absurd hlong hshort

/-- A record with a special field in a mapping within a sequence, whose value is a sequence. -/
def misusedRecord : Record :=
  ⟨"f", 1, "\na: [{~b: [c]}]", ""⟩

theorem load_misusedRecord :
    Yaml.load misusedRecord.metadata =
      .ok (.dict [⟨.str "a", .list [.dict [⟨.str "~b", .list [.str "c"]⟩]]⟩]) := by
  have hn : (Yaml.tokensOf "\na: [{~b: [c]}]".toList >>= Yaml.Node.ofTokens?) =
      .ok (some (.mapping .map [.mk (.scalar .str "a") (.sequence .seq [.mapping .map
        [.mk (.scalar .str "~b") (.sequence .seq [.scalar .str "c"])]])])) :=
    toOption_eq_some_iff.1 (by decide +kernel)
  have hmerged : (Yaml.Node.mapping .map [.mk (.scalar .str "a") (.sequence .seq [.mapping .map
      [.mk (.scalar .str "~b") (.sequence .seq [.scalar .str "c"])]])]).merged =
        .mapping .map [.mk (.scalar .str "a") (.sequence .seq [.mapping .map
          [.mk (.scalar .str "~b") (.sequence .seq [.scalar .str "c"])]])] := by
    simp [Yaml.Node.merged, Yaml.flattened?, Yaml.splitMerges, Yaml.Node.tag, Yaml.mergedItems,
      Yaml.Tag.holdsPairs]
  rw [Yaml.load_of_node (by decide +kernel) (by decide +kernel) hn, hmerged]
  rfl

theorem entity_misusedRecord :
    ∃ entries, Yaml.load misusedRecord.metadata = .ok (.dict entries) ∧
      HasMisuse (.dict entries) ∧
      (misusedRecord.IsRefused ∨
        (misusedRecord.entity = .error (.defect .tooManyDigits) ∧
          (Value.dict entries).HasLongInteger)) := by
  have hmisuse : HasMisuse (.dict [⟨.str "a", .list [.dict [⟨.str "~b", .list [.str "c"]⟩]]⟩]) := by
    refine ⟨[⟨.str "~b", .list [.str "c"]⟩], ?_, _, List.mem_cons_self, ?_⟩
    · exact .field List.mem_cons_self (.item List.mem_cons_self .whole)
    · exact ⟨⟨"~b", rfl, by decide⟩, rfl⟩
  exact ⟨_, load_misusedRecord, hmisuse, (entity_of_mapping load_misusedRecord).2.1 hmisuse⟩

/-- A record with a special field in a mapping that is the value of an ordered pair. -/
def pairsRecord : Record :=
  ⟨"f", 1, "\nx: !!omap\n  - a: {~b: c}\n", ""⟩

theorem load_pairsRecord :
    Yaml.load pairsRecord.metadata =
      .ok (.dict [⟨.str "x", .list [.tuple [.str "a", .dict [⟨.str "~b", .str "c"⟩]]]⟩]) := by
  have hn : (Yaml.tokensOf "\nx: !!omap\n  - a: {~b: c}\n".toList >>= Yaml.Node.ofTokens?) =
      .ok (some (.mapping .map [.mk (.scalar .str "x") (.sequence .omap [.mapping .map
        [.mk (.scalar .str "a") (.mapping .map [.mk (.scalar .str "~b") (.scalar .str "c")])]])])) :=
    toOption_eq_some_iff.1 (by decide +kernel)
  have hmerged : (Yaml.Node.mapping .map [.mk (.scalar .str "x") (.sequence .omap [.mapping .map
      [.mk (.scalar .str "a") (.mapping .map [.mk (.scalar .str "~b") (.scalar .str "c")])]])]).merged =
        .mapping .map [.mk (.scalar .str "x") (.sequence .omap [.mapping .map
          [.mk (.scalar .str "a") (.mapping .map [.mk (.scalar .str "~b") (.scalar .str "c")])]])] := by
    simp [Yaml.Node.merged, Yaml.flattened?, Yaml.splitMerges, Yaml.Node.tag, Yaml.mergedSingles,
      Yaml.mergedPairs, Yaml.Tag.holdsPairs]
  rw [Yaml.load_of_node (by decide +kernel) (by decide +kernel) hn, hmerged]
  rfl

/-- The values of ordered pairs are not converted: a special field in them stays as it is
written. -/
theorem entity_pairsRecord :
    pairsRecord.entity = .ok ⟨"f", 1,
      [⟨.str "x", .list [.tuple [.str "a", .dict [⟨.str "~b", .str "c"⟩]]]⟩,
        ⟨.str "documentation", .str ""⟩]⟩ := by
  unfold Record.entity
  rw [Metadata.ofBlock_of_load load_pairsRecord]
  rfl

/-- Records whose documents are plain data: they are refused if their documents are neither
null nor mappings or misuse a field, and only then, and have their converted fields with the
documentation otherwise. -/
theorem entity_of_isPlainData (hload : Yaml.load r.metadata = .ok v)
    (hplain : v.isPlainData = true) :
    (r.IsRefused ↔ v.fields? = none ∨ HasMisuse v) ∧
    ∀ entries, v.fields? = some entries → ¬ HasMisuse v →
      r.entity = .ok ⟨r.reference, r.line, Metadata.complete entries r.documentation⟩ := by
  cases hentity : r.entity with
  | ok e =>
    obtain ⟨entries, hentries, hproper, rfl⟩ := entity_eq_ok hload hentity
    refine ⟨⟨?_, ?_⟩, ?_⟩
    · rintro ⟨cause, hcause⟩
      rw [hentity] at hcause
      cases hcause
    · rintro (hnone | hmisuse)
      · rw [hentries] at hnone
        cases hnone
      · exact absurd hmisuse hproper
    · intro given hgiven _
      rw [hentries] at hgiven
      cases hgiven
      rfl
  | error f =>
    rcases entity_eq_error hload hentity with ⟨hrefused, hreason⟩ | ⟨-, hlong⟩
    · refine ⟨⟨fun _ => hreason, fun _ => hrefused⟩, ?_⟩
      intro entries hentries hproper
      rcases hreason with hnone | hmisuse
      · rw [hentries] at hnone
        cases hnone
      · exact absurd hmisuse hproper
    · exact absurd hlong (not_hasLongInteger_of_isPlainData hplain)

/-- A record with two keys that have one name. -/
def repeatedRecord : Record :=
  ⟨"f", 1, "\na: x\n~a: y", "\nText."⟩

theorem load_repeatedRecord :
    Yaml.load repeatedRecord.metadata = .ok (.dict [⟨.str "a", .str "x"⟩, ⟨.str "~a", .str "y"⟩]) := by
  have hn : (Yaml.tokensOf "\na: x\n~a: y".toList >>= Yaml.Node.ofTokens?) =
      .ok (some (.mapping .map [.mk (.scalar .str "a") (.scalar .str "x"),
        .mk (.scalar .str "~a") (.scalar .str "y")])) :=
    toOption_eq_some_iff.1 (by decide +kernel)
  have hmerged : (Yaml.Node.mapping .map [.mk (.scalar .str "a") (.scalar .str "x"),
      .mk (.scalar .str "~a") (.scalar .str "y")]).merged =
        .mapping .map [.mk (.scalar .str "a") (.scalar .str "x"),
          .mk (.scalar .str "~a") (.scalar .str "y")] := by
    simp [Yaml.Node.merged, Yaml.flattened?, Yaml.splitMerges, Yaml.Node.tag]
  rw [Yaml.load_of_node (by decide +kernel) (by decide +kernel) hn, hmerged]
  rfl

theorem entity_repeatedRecord :
    ∃ v, Yaml.load repeatedRecord.metadata = .ok v ∧ v.isPlainData = true ∧
      repeatedRecord.entity = .ok ⟨"f", 1,
        [⟨.str "a", .deferred "y"⟩, ⟨.str "documentation", .str "\nText."⟩]⟩ := by
  refine ⟨_, load_repeatedRecord, rfl, ?_⟩
  obtain ⟨-, hentity⟩ := entity_of_isPlainData load_repeatedRecord rfl
  apply hentity _ rfl
  rw [hasMisuse_dict_iff]
  rintro ⟨e, he, hmisuse⟩
  have hwritten : e.value.isUnwritten = false := by
    simp only [List.mem_cons, List.not_mem_nil, or_false] at he
    rcases he with rfl | rfl
    · rfl
    · rfl
  rcases hmisuse with hmisused | hmisuse
  · exact Bool.false_ne_true (hwritten.symm.trans hmisused.unwritten)
  · exact Metadata.not_hasMisuse_of_isUnwritten hwritten hmisuse

end Records

end AnnotatedMarkdown
