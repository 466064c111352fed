import AnnotatedMarkdown.Proofs.Outcome
import AnnotatedMarkdown.Proofs.Value.Entries
import AnnotatedMarkdown.Store.Metadata

/-!
# Attaching metadata

What a single call does to a store.

* Names.  `Entries.stripped` are fields whose keys have lost their mark.  `merge_of_isTextual`
  and `exists_merge_eq_error` are the two outcomes of merging.
* Places.  `Store.keep` puts metadata where an object keeps them, and `keep_cases` lists the
  three places that there are.
* `withMeta_eq_ok` and `exists_withMeta_eq_error` describe a call by these two.
* `own?_keep_of_ne` is the frame: nothing changes for other objects.
-/

namespace AnnotatedMarkdown

/-! ## Names of fields -/

/-- An entry without the mark of its key. -/
def Entry.stripped : Entry → Entry
  | .mk (.str written) v => .mk (.str (Field.name written)) v
  | e => e

/-- Fields without the marks of their keys. -/
def Entries.stripped (fields : Entries) : Entries :=
  fields.map Entry.stripped

theorem Entries.isTextual_stripped {fields : Entries} (h : fields.isTextual = true) :
    fields.stripped.isTextual = true := by
  rw [isTextual_iff] at h ⊢
  intro e he
  obtain ⟨d, hd, rfl⟩ := List.mem_map.1 he
  obtain ⟨k, v⟩ := d
  obtain ⟨written, rfl⟩ : ∃ written, k = .str written := h _ hd
  exact ⟨Field.name written, rfl⟩

namespace Store

theorem merge_of_isTextual {fields : Entries} (h : fields.isTextual = true) (metadata : Entries) :
    merge metadata fields = .ok (metadata.putAll fields.stripped) := by
  induction fields generalizing metadata with
  | nil => rfl
  | cons e fields ih =>
    obtain ⟨⟨written, v, rfl⟩, hfields⟩ := Entries.isTextual_cons_iff.1 h
    exact ih hfields _

theorem exists_fieldKey_eq_error {key : Value} (h : key.isText = false) :
    ∃ d, fieldKey key = .error d := by
  cases key <;> first | exact ⟨_, rfl⟩ | simp [Value.isText] at h

/-- A key that is no text makes merging fail, whatever keys precede it. -/
theorem exists_merge_eq_error {fields : Entries} (h : fields.isTextual = false) (metadata : Entries) :
    ∃ d, merge metadata fields = .error d := by
  induction fields generalizing metadata with
  | nil => simp [Entries.isTextual] at h
  | cons e fields ih =>
    obtain ⟨k, v⟩ := e
    cases hk : k.isText with
    | false =>
      obtain ⟨d, hd⟩ := exists_fieldKey_eq_error hk
      refine ⟨d, ?_⟩
      rw [merge, hd]
      rfl
    | true =>
      obtain ⟨written, rfl⟩ := Value.isText_iff.1 hk
      have hfields : Entries.isTextual fields = false := by
        unfold Entries.isTextual at h ⊢
        rw [List.all_cons] at h
        simpa [Entry.key, Value.isText] using h
      exact ih hfields _

/-! ## Places of metadata -/

/-- Objects that nothing has been attached to. -/
def ofShapes (shapes : Shapes) : Store :=
  ⟨shapes, [], [], []⟩

@[simp] theorem shapes_ofShapes (shapes : Shapes) : (ofShapes shapes).shapes = shapes :=
  rfl

/-- Whether an object takes an attribute where no class of its lineage reserves a slot. -/
def Shapes.takesAttributes (s : Shapes) (o : ObjectId) : Bool :=
  match s.shape? o with
  | some .function => true
  | some (.class _ _) => true
  | some (.instance _) => !s.isFrozen o && s.hasRoom o
  | _ => false

/-- Whether the metadata of an object go into a slot. -/
def UsesSlot (s : Store) (o : ObjectId) : Prop :=
  (∃ c, s.shapes.shape? o = some (.instance c)) ∧ s.classAttribute? o = some .slot

/-- The entries of the metadata that an object has of its own. -/
def ownMetadata (s : Store) (o : ObjectId) : Entries :=
  ((s.own? o).map Prod.snd).getD []

/-- Puts metadata where an object keeps them. -/
def keep (s : Store) (o : ObjectId) (metadata : Entries) : Store :=
  match s.assign o (.dict metadata) with
  | .ok s => s
  | .error _ => s.register o metadata

theorem withMeta_eq_ok (s : Store) (o : ObjectId) {fields : Entries} (h : fields.isTextual = true) :
    s.withMeta o fields = .ok (s.keep o ((s.ownMetadata o).putAll fields.stripped)) := by
  unfold withMeta
  rw [merge_of_isTextual h, Outcome.ok_bind]
  unfold keep ownMetadata
  cases s.assign o (.dict ((((s.own? o).map Prod.snd).getD []).putAll fields.stripped)) with
  | ok t => rfl
  | error refusal => rfl

theorem exists_withMeta_eq_error (s : Store) (o : ObjectId) {fields : Entries}
    (h : fields.isTextual = false) : ∃ d, s.withMeta o fields = .error d := by
  obtain ⟨d, hd⟩ := exists_merge_eq_error h (s.ownMetadata o)
  refine ⟨d, ?_⟩
  unfold withMeta
  unfold ownMetadata at hd
  rw [hd]
  rfl

/-- Metadata go into a slot, or into an attribute, or else into the registry. -/
theorem keep_cases (s : Store) (o : ObjectId) (metadata : Entries) :
    (s.UsesSlot o ∧ s.keep o metadata = { s with slots := update o (.dict metadata) s.slots }) ∨
    (¬ s.UsesSlot o ∧ s.shapes.takesAttributes o = true ∧
      s.keep o metadata = { s with attributes := update o (.dict metadata) s.attributes }) ∨
    (s.shapes.takesAttributes o = false ∧ s.keep o metadata = s.register o metadata) := by
  unfold keep assign Shapes.takesAttributes UsesSlot
  cases hshape : s.shapes.shape? o with
  | none => simp
  | some shape =>
    cases shape with
    | function => simp
    | builtinFunction => simp
    | builtinClass isVariable => simp
    | «class» kind base => simp
    | «instance» c =>
      cases hfrozen : s.shapes.isFrozen o with
      | true => simp
      | false =>
        cases hattribute : s.classAttribute? o with
        | none => cases hroom : s.shapes.hasRoom o <;> simp
        | some a =>
          cases a with
          | slot => simp
          | value holder v => cases hroom : s.shapes.hasRoom o <;> simp

@[simp] theorem shapes_keep (s : Store) (o : ObjectId) (metadata : Entries) :
    (s.keep o metadata).shapes = s.shapes := by
  rcases keep_cases s o metadata with ⟨-, h⟩ | ⟨-, -, h⟩ | ⟨-, h⟩
  · rw [h]
  · rw [h]
  · rw [h]
    rfl

theorem lookup?_attributes_keep_of_ne (s : Store) {o other : ObjectId} (h : o ≠ other)
    (metadata : Entries) :
    lookup? o (s.keep other metadata).attributes = lookup? o s.attributes := by
  rcases keep_cases s other metadata with ⟨-, hkeep⟩ | ⟨-, -, hkeep⟩ | ⟨-, hkeep⟩
  · rw [hkeep]
  · rw [hkeep]
    exact lookup?_update_of_ne h _ _
  · rw [hkeep]
    rfl

theorem lookup?_registry_keep_of_ne (s : Store) {o other : ObjectId} (h : o ≠ other)
    (metadata : Entries) :
    lookup? o (s.keep other metadata).registry = lookup? o s.registry := by
  rcases keep_cases s other metadata with ⟨-, hkeep⟩ | ⟨-, -, hkeep⟩ | ⟨-, hkeep⟩
  · rw [hkeep]
  · rw [hkeep]
  · rw [hkeep]
    exact lookup?_update_of_ne h _ _

theorem lookup?_slots_keep_of_ne (s : Store) {o other : ObjectId} (h : o ≠ other)
    (metadata : Entries) :
    lookup? o (s.keep other metadata).slots = lookup? o s.slots := by
  rcases keep_cases s other metadata with ⟨-, hkeep⟩ | ⟨-, -, hkeep⟩ | ⟨-, hkeep⟩
  · rw [hkeep]
    exact lookup?_update_of_ne h _ _
  · rw [hkeep]
  · rw [hkeep]
    rfl

/-- What an object has of its own depends on what is kept for it. -/
theorem own?_congr {s t : Store} {o : ObjectId} (hshapes : t.shapes = s.shapes)
    (hattributes : lookup? o t.attributes = lookup? o s.attributes)
    (hregistry : lookup? o t.registry = lookup? o s.registry) : t.own? o = s.own? o := by
  unfold own? keepsAttributes
  rw [hshapes, hattributes, hregistry]

/-- Attaching to an object leaves what other objects have of their own. -/
theorem own?_keep_of_ne (s : Store) {o other : ObjectId} (h : o ≠ other) (metadata : Entries) :
    (s.keep other metadata).own? o = s.own? o :=
  own?_congr (shapes_keep s other metadata) (lookup?_attributes_keep_of_ne s h metadata)
    (lookup?_registry_keep_of_ne s h metadata)

theorem keepsAttributes_of_takesAttributes {s : Store} {o : ObjectId}
    (h : s.shapes.takesAttributes o = true) : s.keepsAttributes o = true := by
  unfold Shapes.takesAttributes at h
  unfold keepsAttributes
  cases hshape : s.shapes.shape? o with
  | none => simp [hshape] at h
  | some shape => cases shape <;> simp_all

theorem lookup?_registry_of_own?_eq_none {s : Store} {o : ObjectId} (h : s.own? o = none) :
    lookup? o s.registry = none := by
  unfold own? at h
  cases hregistry : lookup? o s.registry with
  | none => rfl
  | some r => simp [hregistry] at h

/-- An object without metadata of its own has what is attached to it. -/
theorem metadataFor_keep {s : Store} {o : ObjectId} (h : s.own? o = none) (metadata : Entries) :
    (s.keep o metadata).metadataFor o = metadata := by
  have hregistry := lookup?_registry_of_own?_eq_none h
  unfold metadataFor holding?
  rcases keep_cases s o metadata with ⟨⟨⟨c, hshape⟩, hslot⟩, hkeep⟩ | ⟨-, htakes, hkeep⟩ | ⟨-, hkeep⟩
  · -- A slot is found as an attribute of the object; its own attributes are as before.
    have hown : (s.keep o metadata).own? o = none := by
      rw [hkeep]
      exact h
    have hfound : (s.keep o metadata).found? o = some (.slot o, metadata) := by
      have hattribute : (s.keep o metadata).classAttribute? o = some .slot := by
        rw [hkeep]
        exact hslot
      have hshape' : (s.keep o metadata).shapes.shape? o = some (.instance c) := by
        rw [shapes_keep, hshape]
      unfold found?
      rw [hshape', hattribute, hkeep]
      simp only [lookup?_update_self]
      rfl
    rw [hown, hfound]
    rfl
  · have hown : (s.keep o metadata).own? o = some (.attribute o, metadata) := by
      rw [hkeep]
      have hkeeps := keepsAttributes_of_takesAttributes htakes
      unfold keepsAttributes at hkeeps
      unfold own? keepsAttributes
      simp only [hregistry, hkeeps, lookup?_update_self]
      rfl
    rw [hown]
    rfl
  · have hown : (s.keep o metadata).own? o = some (.registry o, metadata) := by
      rw [hkeep]
      unfold own? register
      simp only [lookup?_update_self]
    rw [hown]
    rfl

end Store

end AnnotatedMarkdown
