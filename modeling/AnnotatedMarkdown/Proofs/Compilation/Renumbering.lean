import AnnotatedMarkdown.Generation.Attachment
import AnnotatedMarkdown.Proofs.Generation.Encoding
import AnnotatedMarkdown.Proofs.Inference.Numbering

/-!
# Renumbering the examples of a module

The functions of a generated module are those of its examples, and the statement after
them mentions each of them once, in the metadata that it attaches.  `renumber` gives these
functions new numbers and changes nothing else.

* `retarget` replaces the functions that an attachment mentions.
* `IsSlot` describes metadata around the field of examples: what stands before and after
  this field does not depend on its value.
* `entityStatements_forms` says which statements an entity has under all settings and numbers, with
  whatever statements in its examples.
* `entityStatements_numbered` compares the statements of one entity under all numbers: a
  failure does not depend on the number, and the statements under one number renumber to
  those under any other.
-/

namespace AnnotatedMarkdown.Generation

open Python Inference Documentation Outcome

/-! ## Renumbering -/

/-- Whether an item of a display has a text as its key. -/
def hasKey (key : Text) : DictItem → Bool
  | .pair (.constant (.string t false)) _ => t == key
  | _ => false

/-- An item of a display with another value. -/
def mapValue (f : Expr → Expr) : DictItem → DictItem
  | .pair key value => .pair key (f value)
  | .unpack value => .unpack value

/-- The items of a display with another value under a key. -/
def mapField (key : Text) (f : Expr → Expr) : List DictItem → List DictItem
  | [] => []
  | item :: items =>
    if hasKey key item then mapValue f item :: items else item :: mapField key f items

/-- A display of a mapping with other items. -/
def mapDisplay (f : List DictItem → List DictItem) : Expr → Expr
  | .dict items => .dict (f items)
  | e => e

/-- A call with another first argument. -/
def retargetCall (function : String) : Expr → Expr
  | .call callee (_ :: arguments) keywords => .call callee (.name function :: arguments) keywords
  | e => e

/-- The display of an example that mentions another function. -/
def retargetExample (function : String) : Expr → Expr :=
  mapDisplay (mapField "call" (retargetCall function))

/-- The displays of examples that mention other functions. -/
def retargetExamples : List String → List Expr → List Expr
  | function :: functions, e :: es => retargetExample function e :: retargetExamples functions es
  | _, es => es

/-- The list of examples that mentions other functions. -/
def retargetList (functions : List String) : Expr → Expr
  | .list es => .list (retargetExamples functions es)
  | e => e

/-- A statement that attaches metadata whose examples are other functions. -/
def retarget (functions : List String) : Stmt → Stmt
  | .expr (.call callee [target, metadata] keywords) =>
    .expr (.call callee
      [target, mapDisplay (mapField "examples" (retargetList functions)) metadata] keywords)
  | statement => statement

/-- The statements of a module with other names for the functions of its examples: they are
numbered from a number on, and each attachment mentions the functions in front of it.
`functions` are those in front of the first statement. -/
def renumber (s : Settings) (number : Nat) (functions : List String) : Module → Module
  | [] => []
  | .functionDef isAsync _ parameters body decorators result :: rest =>
    .functionDef isAsync (s.identifier number) parameters body decorators result
      :: renumber s (number + 1) (functions ++ [s.identifier number]) rest
  | statement :: rest => retarget functions statement :: renumber s number [] rest

/-! ## Encoded examples -/

/-- The functions of examples with the numbers from a given one on. -/
def exampleFunctions (s : Settings) (number : Nat) : List (Example × Module) → Module
  | [] => []
  | (_, body) :: examples =>
    exampleFunction (s.identifier number) body :: exampleFunctions s (number + 1) examples

/-- The display of an example. -/
def exampleDisplay (function : String) (e : Example) : Expr :=
  .dict
    [.pair (textLiteral "name") (textLiteral (e.name.getD [])),
      .pair (textLiteral "call") (withMetaCall (.name function)
        (.dict [.pair (textLiteral "source") (textLiteral e.source)])),
      .pair (textLiteral "inferred") (.constant (if e.inferred then .true else .false))]

/-- The displays of examples with the numbers from a given one on. -/
def exampleDisplays (s : Settings) (number : Nat) : List (Example × Module) → List Expr
  | [] => []
  | (e, _) :: examples =>
    exampleDisplay (s.identifier number) e :: exampleDisplays s (number + 1) examples

/-- The names of the functions of several examples. -/
def functionNames (s : Settings) (number : Nat) : Nat → List String
  | 0 => []
  | count + 1 => s.identifier number :: functionNames s (number + 1) count

theorem encode_numberedEntry (s : Settings) (number : Nat) (e : Example) (body : Module) :
    encode (.dict (numberedEntry s number e body)) =
      ⟨.ok (exampleDisplay (s.identifier number) e),
        [exampleFunction (s.identifier number) body]⟩ := by
  rfl

theorem encodeAll_numberedEntries (s : Settings) (number : Nat) (examples : List (Example × Module)) :
    encodeAll (numberedEntries s number examples) =
      ⟨.ok (exampleDisplays s number examples), exampleFunctions s number examples⟩ := by
  induction examples generalizing number with
  | nil => rfl
  | cons x examples ih =>
    obtain ⟨e, body⟩ := x
    rw [numberedEntries, encodeAll, encode_numberedEntry, ih]
    exact Encoding.eq_of_parts rfl (congrArg (_ :: ·) (List.append_nil _))

/-- The list of examples brings all their definitions. -/
theorem encode_numberedEntries (s : Settings) (number : Nat) (examples : List (Example × Module)) :
    encode (.list (numberedEntries s number examples)) =
      ⟨.ok (.list (exampleDisplays s number examples)), exampleFunctions s number examples⟩ := by
  rw [encode, encodeAll_numberedEntries]
  exact Encoding.eq_of_parts rfl (List.append_nil _)

theorem retargetExample_exampleDisplay (function other : String) (e : Example) :
    retargetExample other (exampleDisplay function e) = exampleDisplay other e := by
  rfl

theorem retargetExamples_exampleDisplays (s : Settings) (number other : Nat)
    (examples : List (Example × Module)) :
    retargetExamples (functionNames s other examples.length) (exampleDisplays s number examples) =
      exampleDisplays s other examples := by
  induction examples generalizing number other with
  | nil => rfl
  | cons x examples ih =>
    obtain ⟨e, body⟩ := x
    simp only [List.length_cons, functionNames, exampleDisplays, retargetExamples,
      retargetExample_exampleDisplay, ih]

/-- The functions of examples are renumbered one after the other. -/
theorem renumber_exampleFunctions (s : Settings) (number other : Nat) (functions : List String)
    (examples : List (Example × Module)) (rest : Module) :
    renumber s other functions (exampleFunctions s number examples ++ rest) =
      exampleFunctions s other examples ++
        renumber s (other + examples.length) (functions ++ functionNames s other examples.length)
          rest := by
  induction examples generalizing number other functions with
  | nil => simp [exampleFunctions, functionNames]
  | cons x examples ih =>
    obtain ⟨e, body⟩ := x
    simp only [exampleFunctions, exampleFunction, List.cons_append, renumber, ih, functionNames,
      List.length_cons, List.append_assoc, List.nil_append]
    rw [Nat.add_assoc, Nat.add_comm 1]

/-! ## The field of examples -/

/-- Metadata with a field whose value is left open: nothing else depends on this value. -/
def IsSlot (name : Text) (fill : Value → Entries) : Prop :=
  ∃ before after : Entries, before.IsFieldList ∧ after.IsFieldList ∧
    (∀ e ∈ before, e.key ≠ .str name) ∧ ∀ v, fill v = before ++ .mk (.str name) v :: after

/-- Setting a field leaves its value open. -/
theorem isSlot_put {entries : Entries} (h : entries.IsFieldList) (name : Text) :
    IsSlot name fun v => entries.put (.str name) v := by
  induction entries with
  | nil => exact ⟨[], [], .nil, .nil, by simp, fun v => rfl⟩
  | cons e entries ih =>
    obtain ⟨k, w⟩ := e
    have hkey : ∃ t, k = .str t := h.textual _ List.mem_cons_self
    have hw := h.rawFree
    simp only [holdsRawFree, Bool.and_eq_true] at hw
    by_cases hsame : k = .str name
    · refine ⟨[], entries, .nil, h.tail, by simp, fun v => ?_⟩
      exact (Entries.put_of_same (Value.same_str_iff.2 hsame)).trans (by rw [hsame]; rfl)
    · obtain ⟨before, after, hbefore, hafter, hne, hfill⟩ := ih h.tail
      refine ⟨.mk k w :: before, after, hbefore.cons hkey hw.1, hafter, ?_, fun v => ?_⟩
      · intro d hd
        rcases List.mem_cons.1 hd with rfl | hd
        · exact hsame
        · exact hne d hd
      · exact (Entries.put_of_not_same fun hcontra => hsame (Value.same_str_iff.1 hcontra)).trans
          (congrArg (.mk k w :: ·) (hfill v))

/-- Setting another field keeps a value open. -/
theorem IsSlot.put {name other : Text} {fill : Value → Entries} (h : IsSlot name fill)
    (hother : other ≠ name) {w : Value} (hw : w.isRawFree = true) :
    IsSlot name fun v => (fill v).put (.str other) w := by
  obtain ⟨before, after, hbefore, hafter, hne, hfill⟩ := h
  simp only [hfill]
  clear hfill
  induction before with
  | nil =>
    refine ⟨[], after.put (.str other) w, .nil, hafter.put other hw, by simp, fun v => ?_⟩
    have hsame : ¬ (Value.str name).same (.str other) = true := by
      simp [Value.same, Value.sameScalar, hother.symm]
    exact Entries.put_of_not_same hsame
  | cons e before ih =>
    obtain ⟨k, u⟩ := e
    have hkey : ∃ t, k = .str t := hbefore.textual _ List.mem_cons_self
    have hu := hbefore.rawFree
    simp only [holdsRawFree, Bool.and_eq_true] at hu
    have hk : k ≠ .str name := hne _ List.mem_cons_self
    by_cases hsame : k.same (.str other) = true
    · refine ⟨.mk k w :: before, after, hbefore.tail.cons hkey hw, hafter, ?_, fun v => ?_⟩
      · intro d hd
        rcases List.mem_cons.1 hd with rfl | hd
        · exact hk
        · exact hne d (List.mem_cons_of_mem _ hd)
      · exact Entries.put_of_same hsame
    · obtain ⟨before', after', hbefore', hafter', hne', hfill'⟩ :=
        ih hbefore.tail fun d hd => hne d (List.mem_cons_of_mem _ hd)
      refine ⟨.mk k u :: before', after', hbefore'.cons hkey hu.1, hafter', ?_, fun v => ?_⟩
      · intro d hd
        rcases List.mem_cons.1 hd with rfl | hd
        · exact hk
        · exact hne' d hd
      · exact (Entries.put_of_not_same hsame).trans (congrArg (.mk k u :: ·) (hfill' v))

/-! ## Statements of an entity -/

/-- The items of entries without a key have no such key. -/
theorem hasKey_encodeEntries {name : Text} {entries : Entries} (h : entries.IsFieldList)
    (hne : ∀ e ∈ entries, e.key ≠ .str name) {items : List DictItem}
    (hitems : (encodeEntries entries).outcome = .ok items) :
    ∀ item ∈ items, hasKey name item = false := by
  induction entries generalizing items with
  | nil =>
    cases hitems
    simp
  | cons e entries ih =>
    obtain ⟨k, v⟩ := e
    obtain ⟨t, rfl⟩ : ∃ t, k = .str t := h.textual _ List.mem_cons_self
    have ht : t ≠ name := fun heq => hne _ List.mem_cons_self (by rw [← heq]; rfl)
    rw [encodeEntries] at hitems
    simp only [Encoding.outcome_bind, Encoding.outcome_lift] at hitems
    obtain ⟨key, hkey, hitems⟩ := bind_eq_ok.1 hitems
    obtain ⟨value, -, hitems⟩ := bind_eq_ok.1 hitems
    obtain ⟨rest, hrest, hitems⟩ := bind_eq_ok.1 hitems
    cases hitems
    obtain rfl : t = key := by simpa [keyText, Value.plain] using hkey
    intro item hitem
    rcases List.mem_cons.1 hitem with rfl | hitem
    · simp [hasKey, textLiteral, ht]
    · exact ih h.tail (fun d hd => hne d (List.mem_cons_of_mem _ hd)) hrest item hitem

theorem mapField_append {key : Text} {items : List DictItem}
    (h : ∀ item ∈ items, hasKey key item = false) (f : Expr → Expr) (rest : List DictItem) :
    mapField key f (items ++ rest) = items ++ mapField key f rest := by
  induction items with
  | nil => rfl
  | cons item items ih =>
    have hitem : hasKey key item = false := h item List.mem_cons_self
    rw [List.cons_append, mapField, hitem, if_neg (by simp),
      ih fun i hi => h i (List.mem_cons_of_mem _ hi)]
    rfl

/-- The items around a field whose value is left open. -/
theorem encodeMapping_slot {name : Text} {fill : Value → Entries} (h : IsSlot name fill) :
    (∃ f, ∀ {v : Value} {e : Expr} {functions : List Stmt}, encode v = ⟨.ok e, functions⟩ →
      (encodeMapping (fill v)).outcome = .error f) ∨
    ∃ items more, (∀ item ∈ items, hasKey name item = false) ∧
      ∀ {v : Value} {e : Expr} {functions : List Stmt}, encode v = ⟨.ok e, functions⟩ →
        encodeMapping (fill v) =
          ⟨.ok (.dict (items ++ .pair (textLiteral name) e :: more)), functions⟩ := by
  obtain ⟨before, after, hbefore, hafter, hne, hfill⟩ := h
  have hparts : ∀ {v : Value} {e : Expr} {functions : List Stmt}, encode v = ⟨.ok e, functions⟩ →
      encodeMapping (fill v) = (do
        let items ← encodeEntries before
        let e ← (⟨.ok e, functions⟩ : Encoding Expr)
        let more ← encodeEntries after
        return .dict (items ++ .pair (textLiteral name) e :: more)) := by
    intro v e functions hv
    rw [encodeMapping, hfill, encodeEntries_append, encodeEntries, hv]
    simp only [Encoding.bind_assoc, Encoding.pure_bind]
    rfl
  have hfree := hoisted_encodeEntries before hbefore.rawFree
  have hfree' := hoisted_encodeEntries after hafter.rawFree
  cases hitems : (encodeEntries before).outcome with
  | error f =>
    refine Or.inl ⟨f, fun hv => ?_⟩
    rw [hparts hv, Encoding.outcome_bind, hitems]
    rfl
  | ok items =>
    cases hmore : (encodeEntries after).outcome with
    | error f =>
      refine Or.inl ⟨f, fun hv => ?_⟩
      rw [hparts hv, Encoding.outcome_bind, hitems]
      simp only [ok_bind, Encoding.outcome_bind, hmore]
      rfl
    | ok more =>
      refine Or.inr ⟨items, more, hasKey_encodeEntries hbefore hne hitems, fun hv => ?_⟩
      rw [hparts hv]
      refine Encoding.eq_of_parts ?_ ?_
      · simp only [Encoding.outcome_bind, hitems, hmore, ok_bind, Encoding.outcome_pure]
      · rw [Encoding.hoisted_bind_of_ok hitems, hfree, List.nil_append,
          Encoding.hoisted_bind_of_ok rfl, Encoding.hoisted_bind_of_ok hmore, hfree']
        simp

/-! ### Attachments -/

theorem mapField_eq_self {key : Text} {f : Expr → Expr} (hf : ∀ e, f e = e)
    (items : List DictItem) : mapField key f items = items := by
  induction items with
  | nil => rfl
  | cons item items ih =>
    rw [mapField, ih]
    cases item <;> simp [mapValue, hf]

theorem retargetList_nil (e : Expr) : retargetList [] e = e := by
  cases e with
  | list es => cases es <;> rfl
  | _ => rfl

/-- An attachment without functions in front of it stays as it is. -/
theorem retarget_nil_attachCall (target metadata : Expr) :
    retarget [] (attachCall target metadata) = attachCall target metadata := by
  have hmetadata : mapDisplay (mapField "examples" (retargetList [])) metadata = metadata := by
    cases metadata with
    | dict items => rw [mapDisplay, mapField_eq_self retargetList_nil]
    | _ => rfl
  rw [attachCall, callWith, retarget, hmetadata]

theorem renumber_attachCall (s : Settings) (number : Nat) (functions : List String)
    (target metadata : Expr) (rest : Module) :
    renumber s number functions (attachCall target metadata :: rest) =
      retarget functions (attachCall target metadata) :: renumber s number [] rest :=
  rfl

/-- The statement that attaches metadata around numbered examples. -/
def attachExamples (s : Settings) (number : Nat) (examples : List (Example × Module))
    (target : Expr) (items more : List DictItem) : Stmt :=
  attachCall target
    (.dict (items ++ .pair (textLiteral "examples") (.list (exampleDisplays s number examples)) :: more))

theorem retarget_attachExamples {items : List DictItem}
    (hitems : ∀ item ∈ items, hasKey "examples" item = false) (s : Settings) (number other : Nat)
    (examples : List (Example × Module)) (target : Expr) (more : List DictItem) :
    retarget (functionNames s other examples.length)
        (attachExamples s number examples target items more) =
      attachExamples s other examples target items more := by
  have hfield : mapField "examples" (retargetList (functionNames s other examples.length))
      (items ++ .pair (textLiteral "examples") (.list (exampleDisplays s number examples)) :: more) =
      items ++ .pair (textLiteral "examples") (.list (exampleDisplays s other examples)) :: more := by
    rw [mapField_append hitems, mapField, if_pos (by simp [hasKey, textLiteral]), mapValue,
      retargetList, retargetExamples_exampleDisplays]
  rw [attachExamples, attachCall, callWith, retarget, mapDisplay, hfield]
  rfl

variable {s : Settings}

theorem isFieldList_inferDeprecated {metadata : Entries} (h : metadata.IsFieldList) :
    (inferDeprecated metadata).IsFieldList := by
  unfold inferDeprecated
  split
  · split
    · exact h.put _ rfl
    · exact h
  · exact h

/-- Metadata without examples are fields without raw values. -/
theorem isFieldList_completed_nil {metadata : Entries} (h : metadata.IsFieldList) (number : Nat) :
    (completed s number metadata []).IsFieldList := by
  rw [completed]
  split
  · exact (isFieldList_inferDeprecated h).put _ rfl
  · exact isFieldList_inferDeprecated h

theorem examplesField_of_ne_nil {examples : List (Example × Module)} (h : examples ≠ [])
    (number : Nat) :
    examplesField s number examples =
      [.mk (.str "examples") (.list (numberedEntries s number examples))] := by
  cases examples with
  | nil => exact absurd rfl h
  | cons x xs => rfl

/-- The field of examples is the only one that depends on them, on their number and on the settings
that they are named by. -/
theorem exists_isSlot_completed {metadata : Entries} (h : metadata.IsFieldList)
    {reference : Text} {examples : List (Example × Module)}
    (hexamined : examined s reference metadata = .ok examples) (hne : examples ≠ []) :
    ∃ fill, IsSlot "examples" fill ∧
      ∀ (t : Settings) number (others : List (Example × Module)), others ≠ [] →
        completed t number metadata others = fill (.list (numberedEntries t number others)) := by
  rw [examined] at hexamined
  cases hdocumentation : documentation? (inferDeprecated metadata) with
  | none =>
    rw [hdocumentation] at hexamined
    cases hexamined
    exact absurd rfl hne
  | some documentation =>
    have hother : ("documentation" : Text) ≠ "examples" := by decide
    have hrewritten : (Value.str (rewrite documentation)).isRawFree = true := rfl
    refine ⟨_, (isSlot_put (isFieldList_inferDeprecated h) "examples").put hother hrewritten,
      fun t number others hothers => ?_⟩
    rw [completed, hdocumentation, examplesField_of_ne_nil hothers]
    rfl

/-- The same entity, with examples exactly if the other one has some. -/
def Resembles (x y : Examined) : Prop :=
  y.1 = x.1 ∧ (y.2 = [] ↔ x.2 = [])

theorem Resembles.refl (x : Examined) : Resembles x x :=
  ⟨rfl, Iff.rfl⟩

/-- The statements of an entity with whatever examples, under all settings and numbers: a failure
depends on none of them, an entity without examples has one statement, and the statements of an
entity with examples differ in the functions and in what is shown of the examples only. -/
theorem entityStatements_forms {e : Entity} (he : e.metadata.IsFieldList) {x : Examined}
    (hx : examineEntity s e = .ok x) :
    (∃ f, ∀ (t : Settings) number y, Resembles x y →
      entityStatements (numbered t number y) = .error f) ∨
    (∃ target metadata, x.2 = [] ∧ ∀ (t : Settings) number y, Resembles x y →
      entityStatements (numbered t number y) = .ok [attachCall target metadata]) ∨
    ∃ target items more, (∀ item ∈ items, hasKey "examples" item = false) ∧
      ∀ (t : Settings) number y, Resembles x y → entityStatements (numbered t number y) =
        .ok (exampleFunctions t number y.2 ++ [attachExamples t number y.2 target items more]) := by
  obtain ⟨examples, hexamined, rfl⟩ := map_eq_ok.1 hx
  cases htarget : parseReference e.reference with
  | error f =>
    refine Or.inl ⟨f, ?_⟩
    rintro t number ⟨_, others⟩ ⟨rfl, -⟩
    rw [entityStatements, numbered, htarget]
    rfl
  | ok target =>
    by_cases hne : examples = []
    · subst hne
      -- Without examples no number is read, and nothing is in front of the attachment.
      have hfields := isFieldList_completed_nil (s := s) he 0
      have hsame : ∀ (t : Settings) number y, Resembles (e, []) y →
          entityStatements (numbered t number y) =
            (encodeMapping (completed s 0 e.metadata [])).outcome.map fun metadata =>
              [attachCall target metadata] := by
        rintro t number ⟨_, others⟩ ⟨rfl, hnone⟩
        obtain rfl : others = [] := hnone.2 rfl
        have hhoisted := hoisted_encodeMapping hfields
        rw [entityStatements, numbered, htarget, ok_bind]
        change (encodeMapping (completed s 0 _ [])).outcome >>= _ = _
        cases hmetadata : (encodeMapping (completed s 0 _ [])).outcome with
        | error f => rfl
        | ok metadata =>
          change Except.ok ((encodeMapping (completed s 0 _ [])).hoisted ++ _) = _
          rw [hhoisted]
          rfl
      cases hmetadata : (encodeMapping (completed s 0 e.metadata [])).outcome with
      | error f => exact Or.inl ⟨f, fun t number y hy => by rw [hsame t number y hy, hmetadata]; rfl⟩
      | ok metadata =>
        exact Or.inr (Or.inl ⟨target, metadata, rfl,
          fun t number y hy => by rw [hsame t number y hy, hmetadata]; rfl⟩)
    · obtain ⟨fill, hslot, hfill⟩ := exists_isSlot_completed he hexamined hne
      rcases encodeMapping_slot hslot with ⟨f, hf⟩ | ⟨items, more, hitems, hencoding⟩
      · refine Or.inl ⟨f, ?_⟩
        rintro t number ⟨_, others⟩ ⟨rfl, hnone⟩
        rw [entityStatements, numbered, htarget, ok_bind]
        dsimp only
        rw [hfill t number others (mt hnone.1 hne), hf (encode_numberedEntries t number others)]
        rfl
      · refine Or.inr (Or.inr ⟨target, items, more, hitems, ?_⟩)
        rintro t number ⟨_, others⟩ ⟨rfl, hnone⟩
        rw [entityStatements, numbered, htarget, ok_bind]
        dsimp only
        rw [hfill t number others (mt hnone.1 hne),
          hencoding (encode_numberedEntries t number others)]
        rfl

/-- The statements of an entity under all numbers: a failure does not depend on the number,
and the statements under one number renumber to those under any other. -/
theorem entityStatements_numbered {e : Entity} (he : e.metadata.IsFieldList) {x : Examined}
    (hx : examineEntity s e = .ok x) :
    (∃ f, ∀ number, entityStatements (numbered s number x) = .error f) ∨
    ∃ statements : Nat → List Stmt, ∀ number,
      entityStatements (numbered s number x) = .ok (statements number) ∧
        ∀ other rest, renumber s other [] (statements number ++ rest) =
          statements other ++ renumber s (other + x.2.length) [] rest := by
  rcases entityStatements_forms he hx with
    ⟨f, hf⟩ | ⟨target, metadata, hnone, hform⟩ | ⟨target, items, more, hitems, hform⟩
  · exact Or.inl ⟨f, fun number => hf s number x (.refl x)⟩
  · refine Or.inr ⟨fun _ => [attachCall target metadata],
      fun number => ⟨hform s number x (.refl x), ?_⟩⟩
    intro other rest
    rw [List.singleton_append, renumber_attachCall, retarget_nil_attachCall, hnone]
    rfl
  · refine Or.inr ⟨fun number => exampleFunctions s number x.2 ++
      [attachExamples s number x.2 target items more],
      fun number => ⟨hform s number x (.refl x), ?_⟩⟩
    intro other rest
    rw [List.append_assoc, renumber_exampleFunctions, List.nil_append, List.singleton_append,
      attachExamples, renumber_attachCall, ← attachExamples, retarget_attachExamples hitems,
      List.append_assoc, List.singleton_append]

theorem moduleStatements_cons (e : Entity) (es : List Entity) :
    moduleStatements (e :: es) = (do
      let statements ← entityStatements e
      let rest ← moduleStatements es
      return statements ++ rest) := by
  rw [moduleStatements, moduleStatements, List.mapM_cons]
  cases entityStatements e with
  | error f => rfl
  | ok statements => cases es.mapM entityStatements <;> rfl

/-- The statements of several entities are those that each entity has alone, renumbered. -/
theorem moduleStatements_numberAll {xs : List Examined}
    (hxs : ∀ x ∈ xs, ∃ e : Entity, e.metadata.IsFieldList ∧ examineEntity s e = .ok x) (number : Nat) :
    moduleStatements (numberAll s number xs) =
      (xs.mapM fun x => entityStatements (numbered s 1 x)).map fun parts =>
        renumber s number [] parts.flatten := by
  induction xs generalizing number with
  | nil => rfl
  | cons x xs ih =>
    obtain ⟨e, he, hx⟩ := hxs x List.mem_cons_self
    rw [numberAll, moduleStatements_cons, List.mapM_cons,
      ih (fun y hy => hxs y (List.mem_cons_of_mem x hy))]
    rcases entityStatements_numbered he hx with ⟨f, hf⟩ | ⟨statements, hstatements⟩
    · rw [hf, hf]
      rfl
    · rw [(hstatements number).1, (hstatements 1).1]
      cases xs.mapM fun x => entityStatements (numbered s 1 x) with
      | error f => rfl
      | ok parts =>
        simp only [ok_bind, map_ok, pure, Except.pure, List.flatten_cons, (hstatements 1).2 number]

end AnnotatedMarkdown.Generation
