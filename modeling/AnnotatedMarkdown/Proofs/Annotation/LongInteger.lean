import AnnotatedMarkdown.Proofs.Annotation.Conversion

/-!
# Integers without a text in metadata

A conversion that is not reported fails for an integer with too many digits.

* `hasLongInteger_of_converted` says that conversion makes no integers.
* `entity_eq_defect` finds the integer for which the metadata of a record fail.
-/

namespace AnnotatedMarkdown

open Outcome

/-! ## Converted values -/

/-- The entries of a collapsed mapping have texts for keys, and values of the fields. -/
theorem exists_of_mem_collapse {fields : List (Text × Value)} {e : Entry}
    (h : e ∈ Entries.collapse fields) :
    (∃ name, e.key = .str name) ∧ ∃ field ∈ fields, e.value = field.2 := by
  constructor
  · obtain ⟨name, -, rfl⟩ := List.mem_map.1 h
    exact ⟨name, rfl⟩
  · rw [← Entries.ofList_map_eq_collapse] at h
    obtain ⟨d, hd, hvalue⟩ := Entries.exists_of_mem_ofList h
    obtain ⟨field, hfield, rfl⟩ := List.mem_map.1 hd
    exact ⟨field, hfield, hvalue⟩

theorem exists_hasLongInteger_of_collapse {fields : List (Text × Value)}
    (h : (Value.dict (Entries.collapse fields)).HasLongInteger) :
    ∃ field ∈ fields, field.2.HasLongInteger := by
  obtain ⟨e, he, hlong⟩ := hasLongInteger_dict_iff.1 h
  obtain ⟨⟨name, hkey⟩, field, hfield, hvalue⟩ := exists_of_mem_collapse he
  rw [hkey, hvalue] at hlong
  exact ⟨field, hfield, hlong.resolve_left (not_hasLongInteger_str name)⟩

mutual

/-- Conversion makes no integers. -/
theorem hasLongInteger_of_converted : (v : Value) → v.converted.HasLongInteger → v.HasLongInteger
  | .dict entries, h => by
    rw [Value.converted] at h
    obtain ⟨field, hfield, hlong⟩ := exists_hasLongInteger_of_collapse h
    exact hasLongInteger_dict_iff.2 (hasLongInteger_of_convertedFields entries hfield hlong)
  | .list items, h => by
    rw [Value.converted] at h
    obtain ⟨w, hw, hlong⟩ := hasLongInteger_list_iff.1 h
    exact hasLongInteger_list_iff.2 (hasLongInteger_of_convertedItems items hw hlong)
  | .none, h | .bool _, h | .str _, h | .int _, h | .float _, h | .bytes _, h | .date _, h
  | .dateTime _, h | .tuple _, h | .set _, h | .deferred _, h | .raw _ _, h
  | .object _ _, h => h

theorem hasLongInteger_of_convertedFields :
    (es : List Entry) → ∀ {field}, field ∈ convertedFields es → field.2.HasLongInteger →
      ∃ e ∈ es, e.key.HasLongInteger ∨ e.value.HasLongInteger
  | .mk k v :: es, field, hfield, hlong => by
    rcases List.mem_cons.1 hfield with rfl | hfield
    · refine ⟨_, List.mem_cons_self, Or.inr ?_⟩
      dsimp only at hlong
      split at hlong
      · exact absurd hlong (not_hasLongInteger_deferred _)
      · exact hasLongInteger_of_converted v hlong
    · obtain ⟨e, he, hlong⟩ := hasLongInteger_of_convertedFields es hfield hlong
      exact ⟨e, List.mem_cons_of_mem _ he, hlong⟩

theorem hasLongInteger_of_convertedItems :
    (vs : List Value) → ∀ {w}, w ∈ convertedItems vs → w.HasLongInteger → ∃ v ∈ vs, v.HasLongInteger
  | v :: vs, w, hw, hlong => by
    rcases List.mem_cons.1 hw with rfl | hw
    · exact ⟨v, List.mem_cons_self, hasLongInteger_of_converted v hlong⟩
    · obtain ⟨u, hu, hlong⟩ := hasLongInteger_of_convertedItems vs hw hlong
      exact ⟨u, List.mem_cons_of_mem v hu, hlong⟩

end

/-! ## Failed conversions -/

namespace Metadata

theorem hasLongInteger_of_ofDocument_error {v : Value} {d : Defect}
    (h : ofDocument v = .error (.defect d)) : d = .tooManyDigits ∧ v.HasLongInteger := by
  rcases ofDocument_eq_error h with ⟨-, typeName, hcause⟩ | hfault
  · cases hcause
  · cases hfault with
    | unwritable hlong => exact ⟨rfl, hlong⟩

/-- The fields of a block hold no integers but those of its document. -/
theorem exists_hasLongInteger_of_ofBlock {block : Text} {fields : Entries}
    (h : ofBlock block = .ok fields) (hlong : (Value.dict fields).HasLongInteger) :
    ∃ v, Yaml.load block = .ok v ∧ v.HasLongInteger := by
  unfold ofBlock at h
  split at h
  · next v hload =>
    obtain ⟨entries, hentries, rfl, -⟩ := ofDocument_eq_ok h
    obtain ⟨field, hfield, hlong⟩ := exists_hasLongInteger_of_collapse hlong
    obtain ⟨e, he, hlong⟩ := hasLongInteger_of_convertedFields entries hfield hlong
    refine ⟨v, hload, ?_⟩
    cases v with
    | none =>
      cases hentries
      cases he
    | dict =>
      cases hentries
      exact hasLongInteger_dict_iff.2 ⟨e, he, hlong⟩
    | _ => cases hentries
  · cases h
  · cases h

end Metadata

/-- A record whose metadata are not reported has a block that cannot be read, or an integer without
a text. -/
theorem entity_eq_defect {r : Record} {d : Defect} (h : r.entity = .error (.defect d)) :
    Yaml.load r.metadata = .error (.defect d) ∨
      d = .tooManyDigits ∧ ∃ v, Yaml.load r.metadata = .ok v ∧ v.HasLongInteger := by
  unfold Record.entity Metadata.ofBlock at h
  cases hload : Yaml.load r.metadata with
  | error fault =>
    rw [hload] at h
    cases fault with
    | malformed => cases h
    | defect c =>
      cases h
      exact Or.inl rfl
  | ok v =>
    rw [hload] at h
    dsimp only at h
    split at h
    · cases h
    · cases h
    · next c hdocument =>
      cases h
      obtain ⟨hd, hlong⟩ := Metadata.hasLongInteger_of_ofDocument_error hdocument
      exact Or.inr ⟨hd, v, rfl, hlong⟩

end AnnotatedMarkdown
