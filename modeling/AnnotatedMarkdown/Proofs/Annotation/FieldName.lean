import AnnotatedMarkdown.Proofs.Annotation.Rawness
import AnnotatedMarkdown.Proofs.Store.Attachment

/-!
# Names of fields

The mark of a special field is taken off where the metadata of a record are read, and once
more where they are attached to an object.  This module says for which records both agree on
the names of fields.

* `Metadata.writtenKeys` are the keys of a block as they are written.  `mem_keys_ofBlock` gives
  the names that metadata have, and `isNamed_entity` says that these names are different.
* `Entries.ofList_stripped_eq_iff` compares fields with the fields without their marks.
* `Yaml.load_of_fieldTokens` reads a block of one field, for which only its tokens and the tags
  of its scalars have to be known.
* `metadataFor_attach_eq_iff` joins both: an object has the metadata of a record exactly if no
  key of the record is written with two marks.
-/

namespace AnnotatedMarkdown

open Outcome

/-! ## Marks -/

/-- Without its mark, the name of a field is special if a second mark follows the first one. -/
theorem Field.isSpecial_name_iff {written : Text} :
    isSpecial (name written) = true ↔ [mark, mark] <+: written := by
  cases written with
  | nil => simp [name, isSpecial]
  | cons c rest =>
    by_cases hc : c = mark
    · subst hc
      rw [name_mark]
      cases rest with
      | nil => simp [isSpecial]
      | cons d rest =>
        simp only [isSpecial, List.head?_cons, beq_iff_eq, Option.some.injEq, List.cons_prefix_cons,
          true_and, List.nil_prefix, and_true]
        exact eq_comm
    · have hspecial : isSpecial (c :: rest) = false := by simp [isSpecial, hc]
      rw [name_of_not_isSpecial hspecial, hspecial]
      simp [Ne.symm hc]

/-- A field whose name does not change is not special. -/
theorem Field.not_isSpecial_of_name_eq {written : Text} (h : name written = written) :
    isSpecial written = false := by
  cases hspecial : isSpecial written with
  | false => rfl
  | true =>
    cases written with
    | nil => simp [isSpecial] at hspecial
    | cons c rest =>
      have hlength : (name (c :: rest)).length = rest.length := by simp [name, hspecial]
      rw [h, List.length_cons] at hlength
      omega

namespace Entries

variable {entries : Entries}

theorem stripped_eq_self (h : entries.isTextual = true)
    (hplain : ∀ name, .str name ∈ entries.keys → Field.isSpecial name = false) :
    entries.stripped = entries := by
  have hfixed : ∀ e ∈ entries, e.stripped = id e := by
    intro e he
    obtain ⟨k, v⟩ := e
    obtain ⟨name, rfl⟩ : ∃ name, k = .str name := isTextual_iff.1 h _ he
    have hname : Field.isSpecial name = false := hplain name (List.mem_map_of_mem he)
    rw [Entry.stripped, Field.name_of_not_isSpecial hname, id]
  unfold stripped
  rw [List.map_congr_left hfixed, List.map_id]

/-- Fields with different names are what results from taking their marks off if they have
none, and only then. -/
theorem ofList_stripped_eq_iff (h : entries.IsNamed) :
    ofList entries.stripped = entries ↔
      ∀ name, .str name ∈ entries.keys → Field.isSpecial name = false := by
  constructor
  · intro heq name hname
    obtain ⟨added, hkeys, hsub⟩ := exists_keys_putAll [] (isTextual_stripped h.textual)
    -- No key is lost, so that none is set twice: the keys are the stripped ones, one by one.
    have hadded : added = entries.keys := by
      rw [← heq]
      exact hkeys.symm
    have hlength : entries.keys.length = entries.stripped.keys.length := by
      simp [keys, stripped]
    have hstripped : entries.keys = entries.stripped.keys := by
      rw [hadded] at hsub
      exact hsub.eq_of_length hlength
    obtain ⟨⟨k, v⟩, he, rfl⟩ := List.mem_map.1 hname
    have hfixed : ∀ e ∈ entries, e.key = (Entry.key ∘ Entry.stripped) e := by
      unfold keys stripped at hstripped
      rw [List.map_map] at hstripped
      exact List.map_inj_left.1 hstripped
    have hkey : Value.str name = .str (Field.name name) := hfixed _ he
    exact Field.not_isSpecial_of_name_eq (Value.str.inj hkey).symm
  · intro hplain
    rw [stripped_eq_self h.textual hplain]
    exact h.ofList_eq

end Entries

/-! ## Blocks of one field -/

namespace Yaml

/-- A document stands for the value that its nodes are built into. -/
theorem load_of_ofTokens? {t : Text} {cs : List Char} {tokens : List Token} {n : Node}
    (hchars : t.chars? = some cs) (hallowed : cs.all isAllowed = true)
    (htokens : tokensOf cs = .ok tokens) (hn : Node.ofTokens? tokens = .ok (some n)) :
    load t = n.merged.build.mapError Prod.snd := by
  unfold load
  rw [hchars]
  simp only [hallowed, if_true]
  rw [htokens, ok_bind, hn, ok_bind]

/-- The tokens of a key with a value on one line, neither of them in quotes. -/
def fieldTokens (key value : Text) : List Token :=
  [.mappingStart, .key, .scalar key true, .value, .scalar value true, .blockEnd]

/-- A key with a value on one line stands for a mapping, of texts if both are plain. -/
theorem load_of_fieldTokens {t : Text} {cs : List Char} {key value : Text}
    (hchars : t.chars? = some cs) (hallowed : cs.all isAllowed = true)
    (htokens : tokensOf cs = .ok (fieldTokens key value)) (hkey : Tag.ofPlain key = .str)
    (hvalue : Tag.ofPlain value = .str) : load t = .ok (.dict [⟨.str key, .str value⟩]) := by
  have hn : Node.ofTokens? (fieldTokens key value) =
      .ok (some (.mapping .map
        [.mk (.scalar (.ofPlain key) key) (.scalar (.ofPlain value) value)])) := rfl
  rw [hkey, hvalue] at hn
  have hmerged : (Node.mapping .map [.mk (.scalar .str key) (.scalar .str value)]).merged =
      .mapping .map [.mk (.scalar .str key) (.scalar .str value)] := by
    simp [Node.merged, flattened?, splitMerges, Node.tag]
  have hbuilt : (Node.mapping .map [.mk (.scalar .str key) (.scalar .str value)]).build =
      .ok (.dict [⟨.str key, .str value⟩]) := rfl
  rw [load_of_ofTokens? hchars hallowed htokens hn, hmerged, hbuilt]
  rfl

end Yaml

/-! ## Names that metadata have -/

/-- The text of a key as it is written. -/
def Entry.written? (e : Entry) : Option Text :=
  e.key.plain

namespace Metadata

/-- The keys of the mapping that a block stands for, as they are written. -/
def writtenKeys (block : Text) : List Text :=
  match Yaml.load block with
  | .ok (.dict entries) => entries.filterMap Entry.written?
  | _ => []

/-- Every entry of a mapping gives a field, under its key without the mark. -/
theorem keys_ofEntries {entries : List Entry} {fields : Entries} (h : ofEntries entries = .ok fields) :
    fields.keys = (entries.filterMap Entry.written?).map fun w => .str (Field.name w) := by
  induction entries generalizing fields with
  | nil =>
    cases h
    rfl
  | cons e entries ih =>
    obtain ⟨k, v⟩ := e
    obtain ⟨written, value, rest, hplain, -, hrest, rfl⟩ := ofEntries_cons_eq_ok h
    have hfirst : (Entry.mk k v).written? = some written := hplain
    rw [Entries.keys_cons, ih hrest, List.filterMap_cons_some hfirst, List.map_cons]
    rfl

theorem isTextual_ofEntries {entries : List Entry} {fields : Entries}
    (h : ofEntries entries = .ok fields) : fields.isTextual = true := by
  rw [Entries.isTextual_iff]
  intro e he
  have hmem : e.key ∈ fields.keys := List.mem_map_of_mem he
  rw [keys_ofEntries h] at hmem
  obtain ⟨written, -, hkey⟩ := List.mem_map.1 hmem
  exact ⟨Field.name written, hkey.symm⟩

theorem isNamed_ofBlock {block : Text} {fields : Entries} (h : ofBlock block = .ok fields) :
    fields.IsNamed := by
  unfold ofBlock at h
  split at h
  · unfold ofDocument at h
    split at h
    · cases h
      exact Entries.isNamed_nil
    · obtain ⟨given, hgiven, rfl⟩ := map_eq_ok.1 h
      exact Entries.isNamed_ofList (isTextual_ofEntries hgiven)
    · cases h
  · cases h
  · cases h

/-- The names of the fields of a block are its keys without their marks. -/
theorem mem_keys_ofBlock {block : Text} {fields : Entries} (h : ofBlock block = .ok fields)
    {key : Value} : key ∈ fields.keys ↔ ∃ w ∈ writtenKeys block, key = .str (Field.name w) := by
  unfold ofBlock at h
  unfold writtenKeys
  split at h
  · rename_i v hload
    rw [hload]
    unfold ofDocument at h
    split at h
    · cases h
      simp
    · obtain ⟨given, hgiven, rfl⟩ := map_eq_ok.1 h
      unfold Entries.ofList
      rw [Entries.mem_keys_putAll (isTextual_ofEntries hgiven), keys_ofEntries hgiven]
      simp [eq_comm]
    · cases h
  · cases h
  · cases h

end Metadata

theorem isNamed_entity {r : Record} {e : Entity} (h : r.entity = .ok e) : e.metadata.IsNamed := by
  obtain ⟨fields, hblock, rfl⟩ := exists_fields_of_entity h
  exact (Metadata.isNamed_ofBlock hblock).put _ _

/-- Special names are left in metadata by keys that are written with two marks. -/
theorem forall_not_isSpecial_iff {r : Record} {e : Entity} (h : r.entity = .ok e) :
    (∀ name, .str name ∈ e.metadata.keys → Field.isSpecial name = false) ↔
      ∀ w ∈ Metadata.writtenKeys r.metadata, ¬ [Field.mark, Field.mark] <+: w := by
  obtain ⟨fields, hblock, rfl⟩ := exists_fields_of_entity h
  have hdocumentation : Field.isSpecial (Text.ofString "documentation") = false := by decide
  simp only [Entries.mem_keys_put, Metadata.mem_keys_ofBlock hblock, ← Field.isSpecial_name_iff,
    Bool.not_eq_true]
  constructor
  · intro hplain w hw
    exact hplain (Field.name w) (Or.inl ⟨w, hw, rfl⟩)
  · rintro hwritten name (⟨w, hw, heq⟩ | heq)
    · rw [Value.str.inj heq]
      exact hwritten w hw
    · rw [Value.str.inj heq]
      exact hdocumentation

/-! ## Attached metadata -/

namespace Store

/-- Metadata with texts for keys can be attached, and an object without metadata of its own
has them then, without the marks of their keys. -/
theorem exists_withMeta_metadataFor {s : Store} {o : ObjectId} (hown : s.own? o = none)
    {fields : Entries} (h : fields.isTextual = true) :
    ∃ t, s.withMeta o fields = .ok t ∧ t.metadataFor o = Entries.ofList fields.stripped := by
  have hempty : s.ownMetadata o = [] := by
    unfold ownMetadata
    rw [hown]
    rfl
  refine ⟨_, withMeta_eq_ok s o h, ?_⟩
  rw [metadataFor_keep hown, hempty]
  rfl

/-- What an object without metadata of its own has after the metadata of a record have been
attached to it: the fields of the record, without the marks that their names still have.
They are the metadata of the record exactly if no key of it is written with two marks. -/
theorem metadataFor_attach_eq_iff {r : Record} {e : Entity} (h : r.entity = .ok e) {s : Store}
    {o : ObjectId} (hown : s.own? o = none) :
    ∃ t, s.withMeta o e.metadata = .ok t ∧
      t.metadataFor o = Entries.ofList e.metadata.stripped ∧
      (t.metadataFor o = e.metadata ↔
        ∀ w ∈ Metadata.writtenKeys r.metadata, ¬ [Field.mark, Field.mark] <+: w) := by
  have hnamed := isNamed_entity h
  obtain ⟨t, ht, hmetadata⟩ := exists_withMeta_metadataFor hown hnamed.textual
  refine ⟨t, ht, hmetadata, ?_⟩
  rw [hmetadata, Entries.ofList_stripped_eq_iff hnamed]
  exact forall_not_isSpecial_iff h

/-- A function that nothing has been attached to. -/
def plainFunction : Store :=
  ofShapes [(0, .function)]

/-- A record with a special field. -/
def specialRecord : Record :=
  ⟨"Maybe.Just", 1, "\n~belongsTo: Maybe", "\nText."⟩

theorem load_specialRecord :
    Yaml.load specialRecord.metadata = .ok (.dict [⟨.str "~belongsTo", .str "Maybe"⟩]) := by
  have htokens : Yaml.tokensOf "\n~belongsTo: Maybe".toList =
      .ok (Yaml.fieldTokens "~belongsTo" "Maybe") :=
    toOption_eq_some_iff.1 (by decide +kernel)
  exact Yaml.load_of_fieldTokens (by decide +kernel) (by decide +kernel) htokens
    (by decide +kernel) (by decide +kernel)

theorem metadataFor_attach_specialRecord :
    ∃ e t, specialRecord.entity = .ok e ∧ plainFunction.own? 0 = none ∧
      plainFunction.withMeta 0 e.metadata = .ok t ∧ t.metadataFor 0 = e.metadata := by
  obtain ⟨e, he⟩ : ∃ e, specialRecord.entity = .ok e := by
    unfold Record.entity Metadata.ofBlock
    rw [load_specialRecord]
    exact ⟨_, rfl⟩
  have hown : plainFunction.own? 0 = none := rfl
  have hwritten : ∀ w ∈ Metadata.writtenKeys specialRecord.metadata,
      ¬ [Field.mark, Field.mark] <+: w := by
    unfold Metadata.writtenKeys
    rw [load_specialRecord]
    decide +kernel
  obtain ⟨t, ht, -, hiff⟩ := metadataFor_attach_eq_iff he hown
  exact ⟨e, t, he, hown, ht, hiff.2 hwritten⟩

/-- A record with a field that is written with two marks. -/
def doublyMarkedRecord : Record :=
  ⟨"f", 1, "\n~~a: x", ""⟩

theorem load_doublyMarkedRecord :
    Yaml.load doublyMarkedRecord.metadata = .ok (.dict [⟨.str "~~a", .str "x"⟩]) := by
  have htokens : Yaml.tokensOf "\n~~a: x".toList = .ok (Yaml.fieldTokens "~~a" "x") :=
    toOption_eq_some_iff.1 (by decide +kernel)
  exact Yaml.load_of_fieldTokens (by decide +kernel) (by decide +kernel) htokens
    (by decide +kernel) (by decide +kernel)

/-- A field that is written with two marks is renamed when it is attached. -/
theorem metadataFor_attach_doublyMarkedRecord :
    ∃ e t, doublyMarkedRecord.entity = .ok e ∧ plainFunction.own? 0 = none ∧
      plainFunction.withMeta 0 e.metadata = .ok t ∧ t.metadataFor 0 ≠ e.metadata := by
  obtain ⟨e, he⟩ : ∃ e, doublyMarkedRecord.entity = .ok e := by
    unfold Record.entity Metadata.ofBlock
    rw [load_doublyMarkedRecord]
    exact ⟨_, rfl⟩
  have hown : plainFunction.own? 0 = none := rfl
  have hnamed := isNamed_entity he
  obtain ⟨t, ht, hmetadata⟩ := exists_withMeta_metadataFor hown hnamed.textual
  refine ⟨e, t, he, hown, ht, ?_⟩
  intro heq
  rw [hmetadata, Entries.ofList_stripped_eq_iff hnamed, forall_not_isSpecial_iff he] at heq
  have hwritten : Text.ofString "~~a" ∈ Metadata.writtenKeys doublyMarkedRecord.metadata := by
    unfold Metadata.writtenKeys
    rw [load_doublyMarkedRecord]
    decide +kernel
  exact heq _ hwritten (by decide)

end Store

end AnnotatedMarkdown
