import AnnotatedMarkdown.Proofs.Store.Attachment
import Mathlib.Data.List.Induction

/-!
# Runs of calls

What objects have after any number of calls, some of which may fail.

* Calls.  `Store.after` is the store after calls, and `given` merges what calls give to an
  object.
* The invariant of an object.  `Keeps` says which place holds its metadata, `Keeps.next` is one
  call, and `keeps_after` and `untouched_after` are whole runs.
* Inheritance.  `classAttribute?_after` finds the class that an object looks its metadata up in.
* `metadataFor_after` is the law of a store: one mapping for each object, whose own metadata
  only calls on that object change.
-/

namespace AnnotatedMarkdown.Store

/-! ## Calls -/

/-- A call that attaches fields to an object. -/
structure Call where
  target : ObjectId
  fields : Entries

/-- The store after a call; one that fails leaves the store as it is. -/
def next (s : Store) (c : Call) : Store :=
  (s.withMeta c.target c.fields).toOption.getD s

/-- The store after calls, one after the other. -/
def after (s : Store) (calls : List Call) : Store :=
  calls.foldl next s

/-- Whether a call gives its fields to an object: it is on that object, and all keys are
texts. -/
def Call.givesTo (o : ObjectId) (c : Call) : Bool :=
  c.target == o && c.fields.isTextual

/-- The calls that give fields to an object. -/
def accepted (calls : List Call) (o : ObjectId) : List Call :=
  calls.filter (Call.givesTo o)

/-- The fields that calls give to an object, merged from left to right. -/
def given (calls : List Call) (o : ObjectId) : Entries :=
  Entries.ofList ((accepted calls o).flatMap fun c => c.fields.stripped)

/-- What calls give to an object, if they give anything. -/
def given? (calls : List Call) (o : ObjectId) : Option Entries :=
  if accepted calls o = [] then none else some (given calls o)

variable {s : Store} {o : ObjectId} {c : Call} {calls : List Call} {shapes : Shapes}

theorem after_concat (s : Store) (calls : List Call) (c : Call) :
    s.after (calls ++ [c]) = (s.after calls).next c := by
  unfold after
  rw [List.foldl_append]
  rfl

theorem next_of_isTextual (h : c.fields.isTextual = true) :
    s.next c = s.keep c.target ((s.ownMetadata c.target).putAll c.fields.stripped) := by
  unfold next
  rw [withMeta_eq_ok s c.target h]
  rfl

theorem next_of_not_isTextual (h : c.fields.isTextual = false) : s.next c = s := by
  obtain ⟨d, hd⟩ := exists_withMeta_eq_error s c.target h
  unfold next
  rw [hd]
  rfl

@[simp] theorem shapes_next (s : Store) (c : Call) : (s.next c).shapes = s.shapes := by
  cases h : c.fields.isTextual with
  | true => rw [next_of_isTextual h, shapes_keep]
  | false => rw [next_of_not_isTextual h]

@[simp] theorem shapes_after (s : Store) (calls : List Call) : (s.after calls).shapes = s.shapes := by
  induction calls using List.reverseRecOn with
  | nil => rfl
  | append_singleton calls c ih => rw [after_concat, shapes_next, ih]

/-- A call on one object leaves what other objects have of their own. -/
theorem own?_next_of_ne (h : o ≠ c.target) : (s.next c).own? o = s.own? o := by
  cases htext : c.fields.isTextual with
  | true =>
    rw [next_of_isTextual htext]
    exact own?_keep_of_ne s h _
  | false => rw [next_of_not_isTextual htext]

theorem accepted_concat_of_givesTo (h : c.givesTo o = true) :
    accepted (calls ++ [c]) o = accepted calls o ++ [c] := by
  simp [accepted, h]

theorem accepted_concat_of_not_givesTo (h : c.givesTo o = false) :
    accepted (calls ++ [c]) o = accepted calls o := by
  simp [accepted, h]

theorem given_of_accepted_eq_nil (h : accepted calls o = []) : given calls o = [] := by
  unfold given
  rw [h]
  rfl

theorem given?_concat_of_not_givesTo (h : c.givesTo o = false) :
    given? (calls ++ [c]) o = given? calls o := by
  unfold given? given
  rw [accepted_concat_of_not_givesTo h]

/-- One more call merges its fields into those that the object was given before. -/
theorem given?_concat_of_givesTo (h : c.givesTo o = true) :
    given? (calls ++ [c]) o = some (((given? calls o).getD []).putAll c.fields.stripped) := by
  have hbefore : (given? calls o).getD [] = given calls o := by
    unfold given?
    split
    · rename_i hnone
      exact (given_of_accepted_eq_nil hnone).symm
    · rfl
  have hafter : given (calls ++ [c]) o = (given calls o).putAll c.fields.stripped := by
    unfold given Entries.ofList
    rw [accepted_concat_of_givesTo h, List.flatMap_append, Entries.putAll_append]
    simp
  have hnonempty : accepted (calls ++ [c]) o ≠ [] := by
    rw [accepted_concat_of_givesTo h]
    simp
  rw [hbefore, given?, if_neg hnonempty, hafter]

/-! ## The metadata of one object -/

/-- Whether a class reserves a slot for metadata in its instances. -/
def Shapes.reservesSlot (s : Shapes) (c : ObjectId) : Bool :=
  match s.shape? c with
  | some (.class .slotted _) => true
  | _ => false

/-- Whether an object is an instance for which a class reserves a slot. -/
def Shapes.mayUseSlot (s : Shapes) (o : ObjectId) : Bool :=
  match s.shape? o with
  | some (.instance _) => (s.lineage o).any s.reservesSlot
  | _ => false

/-- A class has a slot under the name of metadata only if it reserves it. -/
theorem reservesSlot_of_ownClassAttribute? {k : ObjectId} (h : s.ownClassAttribute? k = some .slot) :
    s.shapes.reservesSlot k = true := by
  unfold ownClassAttribute? at h
  unfold Shapes.reservesSlot
  split at h
  · cases h
  · rename_i hshape
    rw [hshape]
  · cases h

theorem not_usesSlot (h : s.shapes.mayUseSlot o = false) : ¬ s.UsesSlot o := by
  rintro ⟨⟨k, hshape⟩, hslot⟩
  obtain ⟨k', hk', hown⟩ := List.exists_of_findSome?_eq_some hslot
  have hreserves := reservesSlot_of_ownClassAttribute? hown
  have hany : (s.shapes.lineage o).any s.shapes.reservesSlot = true :=
    List.any_eq_true.2 ⟨k', hk', hreserves⟩
  unfold Shapes.mayUseSlot at h
  rw [hshape] at h
  exact Bool.false_ne_true (h.symm.trans hany)

/-- The metadata of an object are kept in one place: as an attribute if the object takes one,
and in the registry otherwise. -/
structure Keeps (s : Store) (o : ObjectId) (metadata : Option Entries) : Prop where
  lookup?_attributes :
    lookup? o s.attributes = if s.shapes.takesAttributes o then metadata.map .dict else none
  lookup?_registry :
    (lookup? o s.registry).map (·.metadata) = if s.shapes.takesAttributes o then none else metadata

theorem Keeps.own? {metadata : Option Entries} (h : s.Keeps o metadata) :
    (s.own? o).map Prod.snd = metadata := by
  obtain ⟨hattributes, hregistry⟩ := h
  cases htakes : s.shapes.takesAttributes o with
  | true =>
    simp only [htakes, if_true, Option.map_eq_none_iff] at hattributes hregistry
    unfold Store.own?
    rw [hregistry, hattributes, keepsAttributes_of_takesAttributes htakes]
    cases metadata <;> rfl
  | false =>
    simp only [htakes, Bool.false_eq_true, if_false] at hattributes hregistry
    unfold Store.own?
    cases hlookup : lookup? o s.registry with
    | none =>
      rw [hlookup] at hregistry
      simp [hattributes, ← hregistry]
    | some r =>
      rw [hlookup] at hregistry
      exact hregistry

/-- Attaching to an object puts its metadata where they are kept. -/
theorem keeps_keep (hslot : ¬ s.UsesSlot o) {before : Option Entries} (h : s.Keeps o before)
    (metadata : Entries) : (s.keep o metadata).Keeps o (some metadata) := by
  obtain ⟨hattributes, hregistry⟩ := h
  rcases keep_cases s o metadata with ⟨huses, -⟩ | ⟨-, htakes, hkeep⟩ | ⟨htakes, hkeep⟩
  · exact absurd huses hslot
  · rw [htakes, if_pos rfl] at hregistry
    rw [hkeep]
    constructor
    · simp only [htakes, if_true, lookup?_update_self]
      rfl
    · simp only [htakes, if_true]
      exact hregistry
  · rw [htakes, if_neg (by simp)] at hattributes
    rw [hkeep]
    constructor
    · simp only [register, htakes]
      exact hattributes
    · simp only [register, htakes, lookup?_update_self]
      rfl

theorem keeps_keep_of_ne {other : ObjectId} (hne : o ≠ other) {before : Option Entries}
    (h : s.Keeps o before) (metadata : Entries) : (s.keep other metadata).Keeps o before := by
  constructor
  · rw [lookup?_attributes_keep_of_ne s hne, shapes_keep]
    exact h.lookup?_attributes
  · rw [lookup?_registry_keep_of_ne s hne, shapes_keep]
    exact h.lookup?_registry

/-- One call: what it gives to the object is merged into what the object was given before. -/
theorem Keeps.next (hslot : ¬ s.UsesSlot o) (h : s.Keeps o (given? calls o)) (c : Call) :
    (s.next c).Keeps o (given? (calls ++ [c]) o) := by
  cases htext : c.fields.isTextual with
  | false =>
    have hgives : c.givesTo o = false := by simp [Call.givesTo, htext]
    rw [next_of_not_isTextual htext, given?_concat_of_not_givesTo hgives]
    exact h
  | true =>
    rw [next_of_isTextual htext]
    by_cases htarget : c.target = o
    · have hgives : c.givesTo o = true := by simp [Call.givesTo, htext, htarget]
      have hown : s.ownMetadata o = (given? calls o).getD [] := by
        unfold ownMetadata
        rw [h.own?]
      rw [htarget, given?_concat_of_givesTo hgives, hown]
      exact keeps_keep hslot h _
    · have hgives : c.givesTo o = false := by simp [Call.givesTo, htarget]
      rw [given?_concat_of_not_givesTo hgives]
      exact keeps_keep_of_ne (Ne.symm htarget) h _

/-- An object for which no class reserves a slot keeps what calls give to it. -/
theorem keeps_after (h : shapes.mayUseSlot o = false) (calls : List Call) :
    ((ofShapes shapes).after calls).Keeps o (given? calls o) := by
  induction calls using List.reverseRecOn with
  | nil =>
    constructor
    · simp [after, ofShapes, lookup?, given?, accepted]
    · simp [after, ofShapes, lookup?, given?, accepted]
  | append_singleton calls c ih =>
    have hslot : ¬ ((ofShapes shapes).after calls).UsesSlot o := by
      apply not_usesSlot
      rw [shapes_after]
      exact h
    rw [after_concat]
    exact ih.next hslot c

/-! ## Inheritance -/

/-- Nothing is kept for an object, at any place. -/
structure Untouched (s : Store) (o : ObjectId) : Prop where
  lookup?_attributes : lookup? o s.attributes = none
  lookup?_slots : lookup? o s.slots = none
  lookup?_registry : lookup? o s.registry = none

theorem Untouched.keep_of_ne {other : ObjectId} (hne : o ≠ other) (h : s.Untouched o)
    (metadata : Entries) : (s.keep other metadata).Untouched o where
  lookup?_attributes := by rw [lookup?_attributes_keep_of_ne s hne, h.lookup?_attributes]
  lookup?_slots := by rw [lookup?_slots_keep_of_ne s hne, h.lookup?_slots]
  lookup?_registry := by rw [lookup?_registry_keep_of_ne s hne, h.lookup?_registry]

theorem untouched_after (shapes : Shapes) (h : accepted calls o = []) :
    ((ofShapes shapes).after calls).Untouched o := by
  induction calls using List.reverseRecOn with
  | nil => exact ⟨rfl, rfl, rfl⟩
  | append_singleton calls c ih =>
    have hgives : c.givesTo o = false := by
      cases hgives : c.givesTo o with
      | false => rfl
      | true => simp [accepted_concat_of_givesTo hgives] at h
    rw [accepted_concat_of_not_givesTo hgives] at h
    have hbefore := ih h
    rw [after_concat]
    cases htext : c.fields.isTextual with
    | false =>
      rw [next_of_not_isTextual htext]
      exact hbefore
    | true =>
      have hne : o ≠ c.target := by
        rintro rfl
        simp [Call.givesTo, htext] at hgives
      rw [next_of_isTextual htext]
      exact hbefore.keep_of_ne hne _

/-- Whether an object is a class. -/
def Shapes.isClass (s : Shapes) (o : ObjectId) : Bool :=
  match s.shape? o with
  | some (.class _ _) => true
  | some (.builtinClass _) => true
  | _ => false

/-- Whether all objects look attributes up in classes. -/
def Shapes.isClassed (s : Shapes) : Bool :=
  s.all fun e => (s.lineage e.1).all s.isClass

theorem isClass_of_mem_lineage (h : shapes.isClassed = true) {k : ObjectId}
    (hk : k ∈ shapes.lineage o) : shapes.isClass k = true := by
  cases hfind : shapes.find? fun e => e.1 == o with
  | none =>
    have hlineage : shapes.lineage o = [] := by simp [Shapes.lineage, Shapes.shape?, hfind]
    rw [hlineage] at hk
    cases hk
  | some e =>
    have hmem : e ∈ shapes := List.mem_of_find?_eq_some hfind
    have heq : e.1 = o := by simpa using List.find?_some hfind
    have hall := List.all_eq_true.1 h e hmem
    rw [heq] at hall
    exact List.all_eq_true.1 hall k hk

/-- Whether a class has something under the name of metadata: a slot that it reserves, or
metadata that calls have given to it. -/
def definesMetadata (shapes : Shapes) (calls : List Call) (k : ObjectId) : Bool :=
  shapes.reservesSlot k || (shapes.takesAttributes k && !(accepted calls k).isEmpty)

/-- What a class has under the name of metadata: what calls have given to it, which replaces
its slot. -/
def defined (calls : List Call) (k : ObjectId) : ClassAttribute :=
  if accepted calls k = [] then .slot else .value k (.dict (given calls k))

theorem ownClassAttribute?_after {k : ObjectId} (h : shapes.isClass k = true) (calls : List Call) :
    ((ofShapes shapes).after calls).ownClassAttribute? k =
      if definesMetadata shapes calls k then some (defined calls k) else none := by
  have hmay : shapes.mayUseSlot k = false := by
    unfold Shapes.isClass at h
    unfold Shapes.mayUseSlot
    split at h <;> simp_all
  have hattributes := (keeps_after hmay calls).lookup?_attributes
  rw [shapes_after, shapes_ofShapes] at hattributes
  unfold ownClassAttribute?
  rw [hattributes, shapes_after, shapes_ofShapes]
  unfold definesMetadata defined given?
  unfold Shapes.isClass at h
  unfold Shapes.takesAttributes Shapes.reservesSlot
  cases hshape : shapes.shape? k with
  | none => simp [hshape] at h
  | some shape =>
    by_cases hnone : accepted calls k = []
    · cases shape with
      | «class» kind base => cases kind <;> simp [hnone]
      | builtinClass isVariable => simp
      | function => simp [hshape] at h
      | builtinFunction => simp [hshape] at h
      | «instance» k' => simp [hshape] at h
    · cases shape with
      | «class» kind base => simp [hnone]
      | builtinClass isVariable => simp
      | function => simp [hshape] at h
      | builtinFunction => simp [hshape] at h
      | «instance» k' => simp [hshape] at h

theorem findSome?_eq_map_find? {l : List α} {f : α → Option β} {p : α → Bool} {g : α → β}
    (h : ∀ a ∈ l, f a = if p a then some (g a) else none) : l.findSome? f = (l.find? p).map g := by
  induction l with
  | nil => rfl
  | cons a l ih =>
    have ha := h a List.mem_cons_self
    have hl := ih fun b hb => h b (List.mem_cons_of_mem _ hb)
    cases hp : p a with
    | true => simp [hp, ha]
    | false => simp [hp, ha, hl]

/-- The first class in the lineage of an object that has something under the name of metadata
decides what the object finds. -/
theorem classAttribute?_after (h : shapes.isClassed = true) (calls : List Call) (o : ObjectId) :
    ((ofShapes shapes).after calls).classAttribute? o =
      ((shapes.lineage o).find? (definesMetadata shapes calls)).map (defined calls) := by
  unfold classAttribute?
  rw [shapes_after, shapes_ofShapes]
  apply findSome?_eq_map_find?
  intro k hk
  exact ownClassAttribute?_after (isClass_of_mem_lineage h hk) calls

/-- What an object inherits that no call has given fields to. -/
def inherited (shapes : Shapes) (calls : List Call) (o : ObjectId) : Entries :=
  (((shapes.lineage o).find? (definesMetadata shapes calls)).map (given calls)).getD []

theorem metadataFor_after_of_accepted_eq_nil (hclassed : shapes.isClassed = true)
    (h : accepted calls o = []) :
    ((ofShapes shapes).after calls).metadataFor o = inherited shapes calls o := by
  obtain ⟨hattributes, hslots, hregistry⟩ := untouched_after shapes h
  have hown : ((ofShapes shapes).after calls).own? o = none := by
    unfold own?
    rw [hregistry, hattributes]
    simp
  unfold metadataFor holding? inherited
  rw [hown, Option.none_or]
  unfold found?
  rw [classAttribute?_after hclassed, shapes_after, shapes_ofShapes, hattributes, hslots]
  cases hshape : shapes.shape? o with
  | none => simp [Shapes.lineage, hshape]
  | some shape =>
    cases shape with
    | function => simp [Shapes.lineage, hshape]
    | builtinFunction => simp [Shapes.lineage, hshape]
    | builtinClass isVariable =>
      have hdefines : definesMetadata shapes calls o = false := by
        simp [definesMetadata, Shapes.reservesSlot, Shapes.takesAttributes, hshape]
      simp [Shapes.lineage, hshape, hdefines]
    | «class» kind base =>
      cases (shapes.lineage o).find? (definesMetadata shapes calls) with
      | none => rfl
      | some k =>
        by_cases hnone : accepted calls k = []
        · simp [defined, hnone, given_of_accepted_eq_nil hnone]
        · simp [defined, hnone, mappingIn]
    | «instance» k' =>
      cases (shapes.lineage o).find? (definesMetadata shapes calls) with
      | none => rfl
      | some k =>
        by_cases hnone : accepted calls k = []
        · simp [defined, hnone, given_of_accepted_eq_nil hnone]
        · simp [defined, hnone, mappingIn]

theorem metadataFor_after_of_accepted_ne_nil (hslot : shapes.mayUseSlot o = false)
    (h : accepted calls o ≠ []) :
    ((ofShapes shapes).after calls).metadataFor o = given calls o := by
  have hown := (keeps_after hslot calls).own?
  rw [given?, if_neg h] at hown
  obtain ⟨⟨holder, metadata⟩, hfound, rfl⟩ := Option.map_eq_some_iff.1 hown
  unfold metadataFor holding?
  rw [hfound]
  rfl

/-! ## The law of a store -/

/-- After any calls each object has one mapping of its own.  An object that was given fields has
them, merged from left to right, without the marks of their names; instances of classes that
reserve a slot are left out.  Any other object has what was given to the first class in its
lineage that has anything under the name of metadata, be it a slot.  A call on one object does
not change what another one has of its own, and a call with a key that is no text fails and
changes nothing. -/
theorem metadataFor_after (shapes : Shapes) (hclassed : shapes.isClassed = true)
    (calls : List Call) :
    (∀ o, accepted calls o ≠ [] → shapes.mayUseSlot o = false →
      ((ofShapes shapes).after calls).metadataFor o = given calls o) ∧
    (∀ o, accepted calls o = [] →
      ((ofShapes shapes).after calls).metadataFor o = inherited shapes calls o) ∧
    (∀ c o, o ≠ c.target →
      ((ofShapes shapes).after (calls ++ [c])).own? o = ((ofShapes shapes).after calls).own? o) ∧
    (∀ c, c.fields.isTextual = false →
      (∃ d, ((ofShapes shapes).after calls).withMeta c.target c.fields = .error d) ∧
      ∀ o, ((ofShapes shapes).after (calls ++ [c])).metadataFor o =
        ((ofShapes shapes).after calls).metadataFor o) := by
  refine ⟨?_, ?_, ?_, ?_⟩
  · intro o h hslot
    exact metadataFor_after_of_accepted_ne_nil hslot h
  · intro o h
    exact metadataFor_after_of_accepted_eq_nil hclassed h
  · intro c o hne
    rw [after_concat]
    exact own?_next_of_ne hne
  · intro c htext
    refine ⟨exists_withMeta_eq_error _ c.target htext, ?_⟩
    intro o
    rw [after_concat, next_of_not_isTextual htext]

/-- A class with a subclass and an instance of that, a function that takes no attributes, and an
instance that takes none. -/
def familyShapes : Shapes :=
  [(0, .class .open none), (1, .class .open (some 0)), (2, .instance 1), (3, .builtinFunction),
    (4, .class .sealed none), (5, .instance 4)]

/-- Calls on that family; one of them has a key that is no text. -/
def familyCalls : List Call :=
  [⟨0, [⟨.str "~a", .str "x"⟩]⟩, ⟨3, [⟨.str "b", .str "x"⟩]⟩, ⟨5, [⟨.str "c", .str "x"⟩]⟩,
    ⟨1, [⟨.str "a", .str "z"⟩, ⟨.bool true, .str "z"⟩]⟩, ⟨3, [⟨.str "b", .str "y"⟩]⟩,
    ⟨5, [⟨.str "~d", .str "x"⟩]⟩]

theorem metadataFor_after_familyCalls :
    familyShapes.isClassed = true ∧
    ((ofShapes familyShapes).after familyCalls).metadataFor 2 = [⟨.str "a", .str "x"⟩] ∧
    ((ofShapes familyShapes).after familyCalls).metadataFor 3 = [⟨.str "b", .str "y"⟩] ∧
    ((ofShapes familyShapes).after familyCalls).metadataFor 4 = [] ∧
    ((ofShapes familyShapes).after familyCalls).metadataFor 5 =
      [⟨.str "c", .str "x"⟩, ⟨.str "d", .str "x"⟩] := by
  have hclassed : familyShapes.isClassed = true := by decide
  have hthree : accepted familyCalls 3 ≠ [] := List.cons_ne_nil _ _
  have hfive : accepted familyCalls 5 ≠ [] := List.cons_ne_nil _ _
  obtain ⟨hgiven, hinherited, -, -⟩ := metadataFor_after familyShapes hclassed familyCalls
  refine ⟨hclassed, ?_, ?_, ?_, ?_⟩
  · rw [hinherited 2 rfl]
    rfl
  · rw [hgiven 3 hthree rfl]
    rfl
  · rw [hinherited 4 rfl]
    rfl
  · rw [hgiven 5 hfive rfl]
    rfl

/-- A class, and a subclass of it that reserves a slot. -/
def slottedShapes : Shapes :=
  [(0, .class .open none), (1, .class .slotted (some 0))]

/-- A subclass that reserves a slot hides the metadata of its base class. -/
theorem metadataFor_after_slottedShapes :
    (slottedShapes.lineage 1).find? (fun k => slottedShapes.takesAttributes k &&
      !(accepted [⟨0, [⟨.str "a", .str "x"⟩]⟩] k).isEmpty) = some 0 ∧
    ((ofShapes slottedShapes).after [⟨0, [⟨.str "a", .str "x"⟩]⟩]).metadataFor 0 =
      [⟨.str "a", .str "x"⟩] ∧
    ((ofShapes slottedShapes).after [⟨0, [⟨.str "a", .str "x"⟩]⟩]).metadataFor 1 ≠
      [⟨.str "a", .str "x"⟩] := by
  have hnone : ((ofShapes slottedShapes).after [⟨0, [⟨.str "a", .str "x"⟩]⟩]).metadataFor 1 = [] :=
    rfl
  refine ⟨by decide, rfl, ?_⟩
  rw [hnone]
  simp

end AnnotatedMarkdown.Store
