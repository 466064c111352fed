import AnnotatedMarkdown.Value.Display

/-!
# Values within values

A value is within another one if it is a member of it at some depth, or a key, or the value of a
key.

* `Value.HasLongInteger` holds of values with an integer that has no text, and
  `hasLongInteger_of_display` finds one in every value without a text.
* `hasLongInteger_list_iff` and `hasLongInteger_dict_iff` look for it in the members.
-/

namespace AnnotatedMarkdown

/-- A value is another one, or a member or a key at some depth. -/
inductive Value.IsWithin (part : Value) : Value → Prop
  | whole : IsWithin part part
  | list {items : List Value} {v : Value} : v ∈ items → IsWithin part v → IsWithin part (.list items)
  | tuple {items : List Value} {v : Value} : v ∈ items → IsWithin part v → IsWithin part (.tuple items)
  | set {items : List Value} {v : Value} : v ∈ items → IsWithin part v → IsWithin part (.set items)
  | key {entries : List Entry} {e : Entry} :
      e ∈ entries → IsWithin part e.key → IsWithin part (.dict entries)
  | value {entries : List Entry} {e : Entry} :
      e ∈ entries → IsWithin part e.value → IsWithin part (.dict entries)

theorem Value.IsWithin.trans {u v w : Value} (huv : u.IsWithin v) (hvw : v.IsWithin w) : u.IsWithin w := by
  induction hvw with
  | whole => exact huv
  | list hmem _ ih => exact .list hmem ih
  | tuple hmem _ ih => exact .tuple hmem ih
  | set hmem _ ih => exact .set hmem ih
  | key hmem _ ih => exact .key hmem ih
  | value hmem _ ih => exact .value hmem ih

/-- An integer within a value has too many digits for a text. -/
def Value.HasLongInteger (v : Value) : Prop :=
  ∃ n, (Value.int n).IsWithin v ∧ decimalText? n = Option.none

theorem Value.HasLongInteger.of_isWithin {v w : Value} (h : v.HasLongInteger) (hvw : v.IsWithin w) :
    w.HasLongInteger := by
  obtain ⟨n, hn, hlong⟩ := h
  exact ⟨n, hn.trans hvw, hlong⟩

/-! ## Texts -/

theorem eq_none_of_bind_pure {α β : Type} {x : Option α} {f : α → β}
    (h : (x >>= fun a => pure (f a)) = none) : x = none := by
  cases x with
  | none => rfl
  | some a => cases h

mutual

/-- A value without a text has an integer without one. -/
theorem hasLongInteger_of_display : (v : Value) → v.display = none → v.HasLongInteger
  | .int n, h => ⟨n, .whole, h⟩
  | .list items, h => by
    rw [Value.display] at h
    obtain ⟨v, hv, hlong⟩ := exists_hasLongInteger_of_displayAll items (eq_none_of_bind_pure h)
    exact hlong.of_isWithin (.list hv .whole)
  | .tuple items, h => by
    rw [Value.display] at h
    obtain ⟨v, hv, hlong⟩ := exists_hasLongInteger_of_displayAll items (eq_none_of_bind_pure h)
    exact hlong.of_isWithin (.tuple hv .whole)
  | .set items, h => by
    rw [Value.display] at h
    obtain ⟨v, hv, hlong⟩ := exists_hasLongInteger_of_displayAll items (eq_none_of_bind_pure h)
    exact hlong.of_isWithin (.set hv .whole)
  | .dict entries, h => by
    rw [Value.display] at h
    obtain ⟨e, he, hlong⟩ := exists_hasLongInteger_of_displayEntries entries (eq_none_of_bind_pure h)
    rcases hlong with hlong | hlong
    · exact hlong.of_isWithin (.key he .whole)
    · exact hlong.of_isWithin (.value he .whole)
  | .none, h | .bool _, h | .str _, h | .float _, h | .bytes _, h | .date _, h | .dateTime _, h
  | .deferred _, h | .raw _ _, h | .object _ _, h => by
    cases h

theorem exists_hasLongInteger_of_displayAll :
    (vs : List Value) → displayAll vs = none → ∃ v ∈ vs, v.HasLongInteger
  | [], h => by
    cases h
  | v :: vs, h => by
    rw [displayAll] at h
    cases hv : v.display with
    | none => exact ⟨v, List.mem_cons_self, hasLongInteger_of_display v hv⟩
    | some t =>
      rw [hv] at h
      obtain ⟨w, hw, hlong⟩ := exists_hasLongInteger_of_displayAll vs (eq_none_of_bind_pure h)
      exact ⟨w, List.mem_cons_of_mem v hw, hlong⟩

theorem exists_hasLongInteger_of_displayEntries :
    (es : List Entry) → displayEntries es = none →
      ∃ e ∈ es, e.key.HasLongInteger ∨ e.value.HasLongInteger
  | [], h => by
    cases h
  | .mk k v :: es, h => by
    rw [displayEntries] at h
    cases hk : k.display with
    | none => exact ⟨_, List.mem_cons_self, Or.inl (hasLongInteger_of_display k hk)⟩
    | some t =>
      cases hv : v.display with
      | none => exact ⟨_, List.mem_cons_self, Or.inr (hasLongInteger_of_display v hv)⟩
      | some u =>
        rw [hk, hv] at h
        obtain ⟨e, he, hlong⟩ := exists_hasLongInteger_of_displayEntries es (eq_none_of_bind_pure h)
        exact ⟨e, List.mem_cons_of_mem _ he, hlong⟩

end

theorem hasLongInteger_of_plain {v : Value} (h : v.plain = none) : v.HasLongInteger := by
  unfold Value.plain at h
  split at h
  · cases h
  · cases h
  · cases h
  · exact hasLongInteger_of_display v h

theorem not_hasLongInteger_str (t : Text) : ¬ (Value.str t).HasLongInteger := by
  rintro ⟨n, ⟨⟩, -⟩

theorem not_hasLongInteger_deferred (source : Text) : ¬ (Value.deferred source).HasLongInteger := by
  rintro ⟨n, ⟨⟩, -⟩

theorem hasLongInteger_list_iff {items : List Value} :
    (Value.list items).HasLongInteger ↔ ∃ v ∈ items, v.HasLongInteger := by
  constructor
  · rintro ⟨n, hn, hlong⟩
    cases hn with
    | list hmem hn => exact ⟨_, hmem, n, hn, hlong⟩
  · rintro ⟨v, hv, hlong⟩
    exact hlong.of_isWithin (.list hv .whole)

theorem hasLongInteger_dict_iff {entries : List Entry} :
    (Value.dict entries).HasLongInteger ↔
      ∃ e ∈ entries, e.key.HasLongInteger ∨ e.value.HasLongInteger := by
  constructor
  · rintro ⟨n, hn, hlong⟩
    cases hn with
    | key hmem hn => exact ⟨_, hmem, Or.inl ⟨n, hn, hlong⟩⟩
    | value hmem hn => exact ⟨_, hmem, Or.inr ⟨n, hn, hlong⟩⟩
  · rintro ⟨e, he, hlong | hlong⟩
    · exact hlong.of_isWithin (.key he .whole)
    · exact hlong.of_isWithin (.value he .whole)

end AnnotatedMarkdown
