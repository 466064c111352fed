import AnnotatedMarkdown.Annotation.Metadata
import AnnotatedMarkdown.Proofs.Outcome
import AnnotatedMarkdown.Proofs.Value.Entries

/-!
# Metadata without raw values

Raw values come into metadata by the examples of its documentation and in no other way.
Here this is shown of what a metadata block stands for.

* `Value.isRawFree` holds of values with no raw value among their parts.
* `isRawFree_build` follows the construction of a value from a tree of nodes.
* `isRawFree_ofValue` follows the change of its keys to texts, and `isFieldList_ofBlock`
  joins both: all keys of a block are texts, and all its values are free of raw values.
-/

namespace AnnotatedMarkdown

open Yaml Outcome

/-! ## Values -/

mutual

/-- Whether no raw value is among the parts of a value that are encoded. -/
def Value.isRawFree : Value → Bool
  | .raw _ _ => false
  | .list items => areRawFree items
  | .tuple items => areRawFree items
  | .dict entries => holdsRawFree entries
  | _ => true

/-- Whether no raw value is among the parts of values. -/
def areRawFree : List Value → Bool
  | [] => true
  | v :: vs => v.isRawFree && areRawFree vs

/-- Whether no raw value is among the parts of the values of entries. -/
def holdsRawFree : List Entry → Bool
  | [] => true
  | .mk _ v :: entries => v.isRawFree && holdsRawFree entries

end

theorem holdsRawFree_put {v : Value} (hv : v.isRawFree = true) (key : Value) {entries : Entries}
    (h : holdsRawFree entries = true) : holdsRawFree (entries.put key v) = true := by
  induction entries with
  | nil => simp [Entries.put, holdsRawFree, hv]
  | cons e entries ih =>
    obtain ⟨k, w⟩ := e
    simp only [holdsRawFree, Bool.and_eq_true] at h
    by_cases hsame : k.same key = true
    · simp [Entries.put_of_same hsame, holdsRawFree, hv, h.2]
    · simp [Entries.put_of_not_same hsame, holdsRawFree, h.1, ih h.2]

theorem holdsRawFree_putAll {updates : Entries} (hupdates : holdsRawFree updates = true)
    {entries : Entries} (h : holdsRawFree entries = true) :
    holdsRawFree (entries.putAll updates) = true := by
  induction updates generalizing entries with
  | nil => exact h
  | cons e updates ih =>
    obtain ⟨k, v⟩ := e
    simp only [holdsRawFree, Bool.and_eq_true] at hupdates
    exact ih hupdates.2 (holdsRawFree_put hupdates.1 k h)

theorem holdsRawFree_ofList {updates : Entries} (h : holdsRawFree updates = true) :
    holdsRawFree (Entries.ofList updates) = true :=
  holdsRawFree_putAll h rfl

/-! ## Documents -/

namespace Yaml

theorem Built.both_eq_ok {α β : Type} {a : Built α} {b : Built β} {p : α × β} :
    a.both b = .ok p ↔ a = .ok p.1 ∧ b = .ok p.2 := by
  cases a with
  | ok x => cases b <;> simp [Built.both, Prod.ext_iff]
  | error e =>
    cases b with
    | ok y => simp [Built.both]
    | error f =>
      simp only [Built.both]
      split <;> simp

theorem Built.deeper_eq_ok {α : Type} {a : Built α} {x : α} : a.deeper = .ok x ↔ a = .ok x :=
  mapError_eq_ok

theorem isRawFree_timeConstant {cs : List Char} {v : Value} (h : timeConstant cs = .ok v) :
    v.isRawFree = true := by
  rw [timeConstant] at h
  split at h
  · simp at h
  · dsimp only at h
    split at h
    · split at h
      · cases h
        rfl
      · simp at h
    · split at h
      · cases h
        rfl
      · simp at h

theorem isRawFree_constant {tag : Tag} {t : Text} {v : Value} (h : constant tag t = .ok v) :
    v.isRawFree = true := by
  cases tag with
  | timestamp => exact isRawFree_timeConstant h
  | bool | int | float | binary =>
    obtain ⟨a, -, rfl⟩ := map_eq_ok.1 h
    rfl
  | null | str =>
    cases h
    rfl
  | omap | pairs | set | seq | map | merge | value | unknown => simp [constant] at h

theorem isRawFree_defaultConstant {tag : Tag} {t : Option Text} {v : Value}
    (h : defaultConstant tag t = .ok v) : v.isRawFree = true := by
  cases t with
  | none => simp [defaultConstant, Built.fail] at h
  | some t => exact isRawFree_constant (mapError_eq_ok.1 h)

theorem not_fail {α : Type} (e : Fault) (x : α) : Built.fail e ≠ .ok x :=
  nofun

theorem not_deeper_fail {α : Type} (e : Fault) (x : α) : (Built.fail e).deeper ≠ .ok x :=
  nofun

mutual

/-- A tree of nodes stands for a value without raw values. -/
theorem isRawFree_build : (n : Node) → ∀ {v : Value}, n.build = .ok v → v.isRawFree = true
  | .scalar tag text, v, h => by
    rw [Node.build] at h
    split at h
    · exact absurd h (not_deeper_fail _ v)
    · exact isRawFree_constant (mapError_eq_ok.1 h)
  | .sequence tag items, v, h => by
    cases tag with
    | seq =>
      rw [Node.build] at h
      obtain ⟨vs, hvs, rfl⟩ := map_eq_ok.1 h
      exact areRawFree_buildItems items (Built.deeper_eq_ok.1 hvs)
    | omap | pairs =>
      rw [Node.build] at h
      obtain ⟨vs, hvs, rfl⟩ := map_eq_ok.1 h
      exact areRawFree_buildSingles items (Built.deeper_eq_ok.1 hvs)
    | _ =>
      simp [Node.build, Tag.isCollection, not_fail, not_deeper_fail] at h
  | .mapping tag pairs, v, h => by
    cases tag with
    | map =>
      rw [Node.build] at h
      split at h
      · exact absurd h (not_deeper_fail _ v)
      · obtain ⟨es, hes, rfl⟩ := map_eq_ok.1 h
        exact holdsRawFree_ofList (holdsRawFree_buildPairs pairs (Built.deeper_eq_ok.1 hes))
    | set =>
      rw [Node.build] at h
      split at h
      · exact absurd h (not_deeper_fail _ v)
      · obtain ⟨es, -, rfl⟩ := map_eq_ok.1 h
        rfl
    | omap | pairs | seq =>
      simp [Node.build, Tag.isCollection, not_deeper_fail] at h
    | _ => exact isRawFree_defaultConstant (by simpa [Node.build, Tag.isCollection] using h)

theorem areRawFree_buildItems :
    (ns : List Node) → ∀ {vs : List Value}, buildItems ns = .ok vs → areRawFree vs = true
  | [], vs, h => by
    cases h
    rfl
  | n :: ns, vs, h => by
    rw [buildItems] at h
    obtain ⟨⟨w, ws⟩, hboth, rfl⟩ := map_eq_ok.1 h
    obtain ⟨hw, hws⟩ := Built.both_eq_ok.1 hboth
    simp [areRawFree, isRawFree_build n hw, areRawFree_buildItems ns hws]

theorem areRawFree_buildSingles :
    (ns : List Node) → ∀ {vs : List Value}, buildSingles ns = .ok vs → areRawFree vs = true
  | [], vs, h => by
    cases h
    rfl
  | .mapping _ [.mk k w] :: ns, vs, h => by
    rw [buildSingles] at h
    obtain ⟨⟨⟨x, y⟩, ws⟩, hboth, rfl⟩ := map_eq_ok.1 h
    obtain ⟨hxy, hws⟩ := Built.both_eq_ok.1 hboth
    obtain ⟨hx, hy⟩ := Built.both_eq_ok.1 hxy
    simp [areRawFree, Value.isRawFree, isRawFree_build k hx, isRawFree_build w hy,
      areRawFree_buildSingles ns hws]
  | .mapping _ [] :: ns, vs, h | .mapping _ (_ :: _ :: _) :: ns, vs, h
  | .scalar _ _ :: ns, vs, h | .sequence _ _ :: ns, vs, h => by
    simp only [buildSingles] at h
    obtain ⟨p, hboth, -⟩ := map_eq_ok.1 h
    exact absurd (Built.both_eq_ok.1 hboth).1 (by simp [Built.fail])

theorem holdsRawFree_buildPairs :
    (ps : List Pair) → ∀ {es : Entries}, buildPairs ps = .ok es → holdsRawFree es = true
  | [], es, h => by
    cases h
    rfl
  | .mk k w :: ps, es, h => by
    unfold buildPairs at h
    obtain ⟨⟨⟨x, y⟩, ws⟩, hboth, rfl⟩ := map_eq_ok.1 h
    obtain ⟨hxy, hws⟩ := Built.both_eq_ok.1 hboth
    obtain ⟨-, hy⟩ := Built.both_eq_ok.1 hxy
    simp [holdsRawFree, isRawFree_build w hy, holdsRawFree_buildPairs ps hws]

end

theorem isRawFree_load {t : Text} {v : Value} (h : load t = .ok v) : v.isRawFree = true := by
  rw [load] at h
  split at h
  · simp at h
  · split at h
    · obtain ⟨tokens, -, h⟩ := bind_eq_ok.1 h
      obtain ⟨root, -, h⟩ := bind_eq_ok.1 h
      cases root with
      | none =>
        cases h
        rfl
      | some n => exact isRawFree_build n.merged (mapError_eq_ok.1 h)
    · simp at h

end Yaml

/-! ## Metadata -/

/-- Entries whose keys are texts and whose values hold no raw values. -/
structure Entries.IsFieldList (entries : Entries) : Prop where
  textual : ∀ e ∈ entries, ∃ name, e.key = .str name
  rawFree : holdsRawFree entries = true

theorem Entries.IsFieldList.nil : Entries.IsFieldList [] :=
  ⟨by simp, rfl⟩

theorem Entries.IsFieldList.tail {e : Entry} {entries : Entries}
    (h : Entries.IsFieldList (e :: entries)) : entries.IsFieldList := by
  obtain ⟨k, v⟩ := e
  have hraw := h.rawFree
  simp only [holdsRawFree, Bool.and_eq_true] at hraw
  exact ⟨fun d hd => h.textual d (List.mem_cons_of_mem _ hd), hraw.2⟩

theorem Entries.IsFieldList.cons {key v : Value} {entries : Entries} (hkey : ∃ name, key = .str name)
    (hv : v.isRawFree = true) (h : entries.IsFieldList) :
    Entries.IsFieldList (.mk key v :: entries) where
  textual e he := by
    rcases List.mem_cons.1 he with rfl | he
    · exact hkey
    · exact h.textual e he
  rawFree := by simp [holdsRawFree, hv, h.rawFree]

theorem Entries.IsFieldList.put {entries : Entries} (h : entries.IsFieldList) (name : Text)
    {v : Value} (hv : v.isRawFree = true) : (entries.put (.str name) v).IsFieldList where
  textual e he := by
    rcases exists_key_of_mem_put he with hkey | ⟨d, hd, hkey⟩
    · exact ⟨name, hkey⟩
    · rw [hkey]
      exact h.textual d hd
  rawFree := holdsRawFree_put hv _ h.rawFree

theorem Entries.IsFieldList.ofList {updates : Entries} (h : updates.IsFieldList) :
    (Entries.ofList updates).IsFieldList := by
  suffices hall : ∀ entries : Entries, entries.IsFieldList → (entries.putAll updates).IsFieldList from
    hall [] .nil
  induction updates with
  | nil => exact fun entries hentries => hentries
  | cons e updates ih =>
    obtain ⟨k, v⟩ := e
    obtain ⟨name, rfl⟩ : ∃ name, k = .str name := h.textual _ List.mem_cons_self
    have hraw := h.rawFree
    simp only [holdsRawFree, Bool.and_eq_true] at hraw
    intro entries hentries
    exact ih h.tail _ (hentries.put name hraw.1)

namespace Metadata

/-- The value of a field, which is deferred if the field is special. -/
def fieldValue (written : Text) (v : Value) : Except MetadataFault Value :=
  if Field.isSpecial written then deferredValue (Field.name written) v else ofValue v

theorem ofEntries_cons {k : Value} {written : Text} (h : k.plain = some written) (v : Value)
    (entries : List Entry) :
    ofEntries (.mk k v :: entries) = fieldValue written v >>= fun value =>
      (ofEntries entries).map (.mk (.str (Field.name written)) value :: ·) := by
  rw [ofEntries, h]
  dsimp only
  unfold fieldValue
  split
  · rfl
  · rfl

/-- The first entry of a mapping becomes a field if its key has a text and its value can be
converted. -/
theorem ofEntries_cons_eq_ok {k v : Value} {entries : List Entry} {fields : Entries}
    (h : ofEntries (.mk k v :: entries) = .ok fields) :
    ∃ written value rest, k.plain = some written ∧ fieldValue written v = .ok value ∧
      ofEntries entries = .ok rest ∧ fields = .mk (.str (Field.name written)) value :: rest := by
  cases hplain : k.plain with
  | none =>
    rw [ofEntries, hplain] at h
    cases h
  | some written =>
    rw [ofEntries_cons hplain] at h
    obtain ⟨value, hvalue, h⟩ := bind_eq_ok.1 h
    obtain ⟨rest, hrest, rfl⟩ := map_eq_ok.1 h
    exact ⟨written, value, rest, rfl, hvalue, hrest, rfl⟩

theorem isRawFree_deferredValue {name : Text} {v w : Value} (h : deferredValue name v = .ok w) :
    w.isRawFree = true := by
  unfold deferredValue at h
  split at h
  · cases h
  · cases h
  · cases h
  · split at h
    · cases h
      rfl
    · cases h

mutual

theorem isRawFree_ofValue :
    (v : Value) → ∀ {w : Value}, ofValue v = .ok w → v.isRawFree = true → w.isRawFree = true
  | .dict entries, w, h, hv => by
    rw [ofValue] at h
    obtain ⟨es, hes, rfl⟩ := map_eq_ok.1 h
    exact (isFieldList_ofEntries entries hes (by simpa [Value.isRawFree] using hv)).ofList.rawFree
  | .list items, w, h, hv => by
    rw [ofValue] at h
    obtain ⟨vs, hvs, rfl⟩ := map_eq_ok.1 h
    exact areRawFree_ofItems items hvs (by simpa [Value.isRawFree] using hv)
  | .none, w, h, hv | .bool _, w, h, hv | .str _, w, h, hv | .int _, w, h, hv
  | .float _, w, h, hv | .bytes _, w, h, hv | .date _, w, h, hv | .dateTime _, w, h, hv
  | .tuple _, w, h, hv | .set _, w, h, hv | .deferred _, w, h, hv | .raw _ _, w, h, hv
  | .object _ _, w, h, hv => by
    cases h
    exact hv

/-- The fields of entries without raw values are without raw values. -/
theorem isFieldList_ofEntries :
    (es : List Entry) → ∀ {fields : Entries}, ofEntries es = .ok fields →
      holdsRawFree es = true → fields.IsFieldList
  | [], fields, h, hes => by
    cases h
    exact .nil
  | .mk k v :: es, fields, h, hes => by
    simp only [holdsRawFree, Bool.and_eq_true] at hes
    obtain ⟨written, value, rest, -, hvalue, hrest, rfl⟩ := ofEntries_cons_eq_ok h
    have hraw : value.isRawFree = true := by
      unfold fieldValue at hvalue
      split at hvalue
      · exact isRawFree_deferredValue hvalue
      · exact isRawFree_ofValue v hvalue hes.1
    have hfields := isFieldList_ofEntries es hrest hes.2
    exact hfields.cons ⟨_, rfl⟩ hraw

theorem areRawFree_ofItems :
    (vs : List Value) → ∀ {ws : List Value}, ofItems vs = .ok ws →
      areRawFree vs = true → areRawFree ws = true
  | [], ws, h, hvs => by
    cases h
    rfl
  | v :: vs, ws, h, hvs => by
    simp only [areRawFree, Bool.and_eq_true] at hvs
    rw [ofItems] at h
    obtain ⟨w, hw, h⟩ := bind_eq_ok.1 h
    obtain ⟨rest, hrest, h⟩ := bind_eq_ok.1 h
    cases h
    simp [areRawFree, isRawFree_ofValue v hw hvs.1, areRawFree_ofItems vs hrest hvs.2]

end

/-- What a metadata block stands for are fields without raw values. -/
theorem isFieldList_ofBlock {block : Text} {fields : Entries} (h : ofBlock block = .ok fields) :
    fields.IsFieldList := by
  rw [ofBlock] at h
  split at h
  case h_1 v hload =>
    have hv := isRawFree_load hload
    unfold ofDocument at h
    split at h
    · cases h
      exact .nil
    · obtain ⟨es, hes, rfl⟩ := map_eq_ok.1 h
      exact (isFieldList_ofEntries _ hes (by simpa [Value.isRawFree] using hv)).ofList
    · cases h
  case h_2 => cases h
  case h_3 => cases h

end Metadata

/-- The entity of a record has the fields of its block, and its documentation. -/
theorem exists_fields_of_entity {r : Record} {e : Entity} (h : r.entity = .ok e) :
    ∃ fields, Metadata.ofBlock r.metadata = .ok fields ∧
      e = ⟨r.reference, r.line, fields.put (.str "documentation") (.str r.documentation)⟩ := by
  unfold Record.entity at h
  split at h
  · next fields hblock =>
    cases h
    exact ⟨fields, hblock, rfl⟩
  · cases h
  · cases h

/-- The metadata of a record are fields without raw values. -/
theorem isFieldList_entity {r : Record} {e : Entity} (h : r.entity = .ok e) :
    e.metadata.IsFieldList := by
  obtain ⟨fields, hblock, rfl⟩ := exists_fields_of_entity h
  exact (Metadata.isFieldList_ofBlock hblock).put _ rfl

end AnnotatedMarkdown
