import AnnotatedMarkdown.Proofs.Compilation.Independence
import AnnotatedMarkdown.Proofs.Generation.Tags
import AnnotatedMarkdown.Proofs.Inference.Derivation
import Mathlib.Data.List.Nodup

/-!
# Functions of examples

Every example of a text becomes a function of the generated module, and the entry of the
example tags this function.  This module follows an example from the documentation in which
it stands to its definition and its tag.

* `examined_entity` shows that the examples of an entity are those of the documentation of
  its record.
* `IsExample` relates an example to its definition and its entry.  `IsPart` describes the
  statements of one entity, and `ArePartsFrom` those of all entities, whose examples are
  numbered one after the other.
* `generate_exampleFunctions` joins what these say of every text that has a module.
-/

namespace AnnotatedMarkdown

open Inference Generation Python Documentation Outcome

namespace Generation

/-! ## Examples with numbers -/

/-- What the function of an example is tagged with. -/
def sourceDisplay (e : Example) : Expr :=
  .dict [.pair (textLiteral "source") (textLiteral e.source)]

/-- The tags of examples, the first of which has a given number. -/
def exampleTags (s : Settings) (number : Nat) : List Example → List (Expr × Expr)
  | [] => []
  | e :: examples =>
    (.name (s.identifier number), sourceDisplay e) :: exampleTags s (number + 1) examples

/-- The tags of examples in two pieces. -/
theorem exampleTags_append (s : Settings) (number : Nat) (examples more : List Example) :
    exampleTags s number (examples ++ more) =
      exampleTags s number examples ++ exampleTags s (number + examples.length) more := by
  induction examples generalizing number with
  | nil => rfl
  | cons e examples ih =>
    rw [List.cons_append, exampleTags, ih, exampleTags, List.length_cons, Nat.add_assoc,
      Nat.add_comm 1]
    rfl

theorem targets_exampleTags (s : Settings) (number : Nat) (examples : List Example) :
    (exampleTags s number examples).map Prod.fst =
      ((List.range' number examples.length).map s.identifier).map Expr.name := by
  induction examples generalizing number with
  | nil => rfl
  | cons e examples ih =>
    rw [exampleTags, List.map_cons, ih, List.length_cons, List.range'_succ]
    rfl

variable {s : Settings}

theorem definedFunctions_exampleFunctions (number : Nat) (read : List (Example × Module)) :
    definedFunctions (exampleFunctions s number read) =
      (List.range' number read.length).map s.identifier := by
  induction read generalizing number with
  | nil => rfl
  | cons x read ih =>
    rw [List.length_cons, List.range'_succ, List.map_cons, ← ih]
    rfl

theorem tagsOfAll_exampleDisplays (number : Nat) (read : List (Example × Module)) :
    tagsOfAll (exampleDisplays s number read) = exampleTags s number (read.map Prod.fst) := by
  induction read generalizing number with
  | nil => rfl
  | cons x read ih =>
    rw [exampleDisplays, tagsOfAll, ih]
    rfl

theorem attachedTags_exampleFunctions (number : Nat) (read : List (Example × Module)) :
    (exampleFunctions s number read).flatMap attachedTags = [] := by
  induction read generalizing number with
  | nil => rfl
  | cons x read ih => exact ih (number + 1)

/-- A list whose elements are numbered from a given number on. -/
theorem mapIdx_add_cons {α β : Type} (f : Nat → α → β) (number : Nat) (a : α) (as : List α) :
    (a :: as).mapIdx (fun j x => f (number + j) x) =
      f number a :: as.mapIdx fun j x => f (number + 1 + j) x := by
  rw [List.mapIdx_cons]
  simp only [Nat.add_zero, Nat.add_assoc, Nat.add_comm 1]

theorem numberedEntries_eq_mapIdx (number : Nat) (read : List (Example × Module)) :
    numberedEntries s number read =
      read.mapIdx fun j x => .dict (numberedEntry s (number + j) x.1 x.2) := by
  induction read generalizing number with
  | nil => rfl
  | cons x read ih =>
    rw [numberedEntries, ih]
    exact (mapIdx_add_cons (fun k x => Value.dict (numberedEntry s k x.1 x.2)) number x read).symm

theorem exampleFunctions_eq_mapIdx (number : Nat) (read : List (Example × Module)) :
    exampleFunctions s number read =
      read.mapIdx fun j x => exampleFunction (s.identifier (number + j)) x.2 := by
  induction read generalizing number with
  | nil => rfl
  | cons x read ih =>
    rw [exampleFunctions, ih]
    exact (mapIdx_add_cons (fun k x => exampleFunction (s.identifier k) x.2) number x read).symm

/-! ## Documentation of entities -/

theorem get?_documentation_entity {r : Record} {e : Entity} (h : r.entity = .ok e) :
    e.metadata.get? (.str "documentation") = some (.str r.documentation) := by
  rw [Record.entity] at h
  split at h
  · cases h
    exact Entries.get?_put_self _ _ _
  · cases h
  · cases h

theorem examineAll_spec {reference : Text} {examples : List Example}
    {read : List (Example × Module)} (h : examineAll s reference examples = .ok read) :
    read.map Prod.fst = examples ∧ ∀ x ∈ read, examine s reference x.1 = .ok x.2 := by
  induction examples generalizing read with
  | nil =>
    cases h
    exact ⟨rfl, by simp⟩
  | cons e examples ih =>
    obtain ⟨x, rest, hx, hrest, rfl⟩ := mapM_cons_eq_ok.1 h
    obtain ⟨body, hbody, rfl⟩ := map_eq_ok.1 hx
    obtain ⟨hmap, hmem⟩ := ih hrest
    refine ⟨by rw [List.map_cons, hmap], ?_⟩
    intro y hy
    rcases List.mem_cons.1 hy with rfl | hy
    · exact hbody
    · exact hmem y hy

/-- The examples of an entity are those of the documentation of its record. -/
theorem examined_entity {r : Record} {e : Entity} (he : r.entity = .ok e)
    {read : List (Example × Module)} (h : examined s e.reference e.metadata = .ok read) :
    read.map Prod.fst = Markdown.examples r.documentation ∧
      ∀ x ∈ read, examine s e.reference x.1 = .ok x.2 := by
  have hdocumentation : (inferDeprecated e.metadata).get? (.str "documentation") =
      some (.str r.documentation) :=
    (get?_inferDeprecated_of_ne _ (mt Value.str.inj (by decide))).trans (get?_documentation_entity he)
  rw [examined, documentation?, hdocumentation] at h
  dsimp only at h
  by_cases hempty : r.documentation.isEmpty = true
  · rw [if_pos hempty] at h
    cases h
    have hdocumentation : r.documentation = [] := by simpa using hempty
    rw [hdocumentation]
    exact ⟨by decide, by simp⟩
  · rw [if_neg hempty] at h
    exact examineAll_spec h

/-- An example that can be a function has been read as statements. -/
theorem parseModule_of_examine {reference : Text} {e : Example} {body : Module}
    (h : examine s reference e = .ok body) :
    ∃ version, s.grammarVersion = .ok version ∧ parseModule version e.source = .ok body := by
  obtain ⟨parsed, hparsed, h⟩ := bind_eq_ok.1 h
  obtain ⟨version, hversion, hparsed⟩ := bind_eq_ok.1 hparsed
  have hbody : parsed = body := by
    split at h
    · cases h
    · split at h <;> cases h
      rfl
  subst hbody
  exact ⟨version, mapError_eq_ok.1 hversion, mapError_eq_ok.1 hparsed⟩

/-! ## Statements of an entity -/

/-- An example with a number has been turned into an entry and a definition: the entry tags
the function with this number, and the definition gives it the statements of the source. -/
structure IsExample (s : Settings) (number : Nat) (e : Example) (entry : Value)
    (definition : Stmt) : Prop where
  call : ∃ fields : Entries, entry = .dict fields ∧ fields.get? (.str "call") =
    some (.raw (withMetaCall (.name (s.identifier number)) (sourceDisplay e)) [definition])
  body : ∃ version statements, s.grammarVersion = .ok version ∧
    parseModule version e.source = .ok statements ∧
    definition = .functionDef false (s.identifier number) []
      (if statements.isEmpty then [.pass] else statements) [] none

/-- The statements of an entity, the first example of which has a given number: a definition
for every example, and behind them the attachment, whose list of examples has an entry for
every example. -/
structure IsPart (s : Settings) (number : Nat) (examples : List Example) (e : Entity)
    (part : Module) : Prop where
  split : ∃ definitions target metadata, part = definitions ++ [attachCall target metadata] ∧
    parseReference e.reference = .ok target ∧ encodeMapping e.metadata = ⟨.ok metadata, definitions⟩ ∧
    definitions.length = examples.length ∧
    (examples ≠ [] → ∃ entries, e.metadata.get? (.str "examples") = some (.list entries) ∧
      entries.length = examples.length ∧
      ∀ j x, examples[j]? = some x → ∃ entry definition, entries[j]? = some entry ∧
        definitions[j]? = some definition ∧ IsExample s (number + j) x entry definition)
  defined : definedFunctions part = (List.range' number examples.length).map s.identifier
  tagged : part.flatMap attachedTags = exampleTags s number examples

theorem isExample_numberedEntry {number : Nat} {reference : Text} {e : Example} {body : Module}
    (h : examine s reference e = .ok body) :
    IsExample s number e (.dict (numberedEntry s number e body))
      (exampleFunction (s.identifier number) body) := by
  obtain ⟨version, hversion, hparsed⟩ := parseModule_of_examine h
  exact ⟨⟨_, rfl, rfl⟩, version, body, hversion, hparsed, rfl⟩

/-- Each example of an entity has an entry and a definition at its place. -/
theorem exists_isExample {number : Nat} {reference : Text} {read : List (Example × Module)}
    (hread : ∀ x ∈ read, examine s reference x.1 = .ok x.2) {j : Nat} {e : Example}
    (he : (read.map Prod.fst)[j]? = some e) :
    ∃ entry definition, (numberedEntries s number read)[j]? = some entry ∧
      (exampleFunctions s number read)[j]? = some definition ∧
      IsExample s (number + j) e entry definition := by
  rw [List.getElem?_map] at he
  obtain ⟨⟨e, body⟩, hj, rfl⟩ := Option.map_eq_some_iff.1 he
  have hbody : examine s reference e = .ok body := hread (e, body) (List.mem_of_getElem? hj)
  refine ⟨.dict (numberedEntry s (number + j) e body),
    exampleFunction (s.identifier (number + j)) body, ?_, ?_, isExample_numberedEntry hbody⟩
  · rw [numberedEntries_eq_mapIdx, List.getElem?_mapIdx, hj, Option.map_some]
  · rw [exampleFunctions_eq_mapIdx, List.getElem?_mapIdx, hj, Option.map_some]

/-- The tags of metadata around a field are those of the field. -/
theorem tags_encodeMapping_slot {name : Text} {fill : Value → Entries} (h : IsSlot name fill)
    {v : Value} {e metadata : Expr} (hv : (encode v).outcome = .ok e)
    (hmetadata : (encodeMapping (fill v)).outcome = .ok metadata) : tags metadata = tags e := by
  obtain ⟨before, after, hbefore, hafter, -, hfill⟩ := h
  simp only [encodeMapping, hfill, encodeEntries_append, encodeEntries, Encoding.outcome_bind, hv]
    at hmetadata
  obtain ⟨items, hitems, hmetadata⟩ := bind_eq_ok.1 hmetadata
  obtain ⟨before', hbefore', hitems⟩ := bind_eq_ok.1 hitems
  obtain ⟨rest, hrest, hitems⟩ := bind_eq_ok.1 hitems
  obtain ⟨key, -, hrest⟩ := bind_eq_ok.1 hrest
  obtain ⟨value, hvalue, hrest⟩ := bind_eq_ok.1 hrest
  obtain ⟨after', hafter', hrest⟩ := bind_eq_ok.1 hrest
  cases hvalue
  cases hrest
  cases hitems
  cases hmetadata
  rw [tags, tagsOfItems_append, tagsOfItems,
    tagsOfItems_encodeEntries _ hbefore.rawFree hbefore',
    tagsOfItems_encodeEntries _ hafter.rawFree hafter', List.nil_append, List.append_nil]

/-- The encoding of metadata with numbered examples brings their definitions and tags. -/
theorem encodeMapping_completed {metadata : Entries} (hfields : metadata.IsFieldList)
    {reference : Text} {read : List (Example × Module)}
    (hread : examined s reference metadata = .ok read) {number : Nat} {display : Expr}
    (h : (encodeMapping (completed s number metadata read)).outcome = .ok display) :
    encodeMapping (completed s number metadata read) =
        ⟨.ok display, exampleFunctions s number read⟩ ∧
      tags display = exampleTags s number (read.map Prod.fst) := by
  by_cases hne : read = []
  · subst hne
    have hcompleted := isFieldList_completed_nil (s := s) hfields number
    have htags : tags display = [] := by
      rw [encodeMapping, Encoding.outcome_bind] at h
      obtain ⟨items, hitems, h⟩ := bind_eq_ok.1 h
      cases h
      exact tagsOfItems_encodeEntries _ hcompleted.rawFree hitems
    exact ⟨Encoding.eq_of_parts h (hoisted_encodeMapping hcompleted), htags⟩
  · obtain ⟨fill, hslot, hfill⟩ := exists_isSlot_completed hfields hread hne
    have hlist := encode_numberedEntries s number read
    rw [hfill s number read hne] at h ⊢
    have htags : tags display = exampleTags s number (read.map Prod.fst) := by
      rw [tags_encodeMapping_slot hslot (congrArg Encoding.outcome hlist) h, tags,
        tagsOfAll_exampleDisplays]
    rcases encodeMapping_slot hslot with ⟨f, hf⟩ | ⟨items, more, -, hencoding⟩
    · rw [hf hlist] at h
      cases h
    · rw [hencoding hlist] at h ⊢
      cases h
      exact ⟨rfl, htags⟩

theorem get?_examples_completed {metadata : Entries} {reference : Text}
    {read : List (Example × Module)} (hread : examined s reference metadata = .ok read)
    (hne : read ≠ []) (number : Nat) :
    (completed s number metadata read).get? (.str "examples") =
      some (.list (numberedEntries s number read)) := by
  have hother : ("documentation" : Text) ≠ "examples" := by decide
  rw [examined] at hread
  cases hdocumentation : documentation? (inferDeprecated metadata) with
  | none =>
    rw [hdocumentation] at hread
    cases hread
    exact absurd rfl hne
  | some documentation =>
    rw [completed, hdocumentation]
    dsimp only
    rw [Entries.get?_put_of_ne hother, examplesField_of_ne_nil hne]
    exact Entries.get?_put_self _ _ _

/-- Each example of an entity becomes a definition in front of the attachment and an entry in
what is attached. -/
theorem isPart_numbered {r : Record} {e : Entity} (he : r.entity = .ok e) {x : Examined}
    (hx : examineEntity s e = .ok x) {number : Nat} {part : Module}
    (hpart : entityStatements (numbered s number x) = .ok part) :
    IsPart s number (Markdown.examples r.documentation) (numbered s number x) part := by
  obtain ⟨read, hread, rfl⟩ := map_eq_ok.1 hx
  obtain ⟨hexamples, hmem⟩ := examined_entity he hread
  obtain ⟨target, htarget, hpart⟩ := bind_eq_ok.1 hpart
  obtain ⟨display, hdisplay, hpart⟩ := bind_eq_ok.1 hpart
  obtain ⟨hencoding, htags⟩ := encodeMapping_completed (isFieldList_entity he) hread hdisplay
  have hhoisted : (encodeMapping (numbered s number (e, read)).metadata).hoisted =
      exampleFunctions s number read := congrArg Encoding.hoisted hencoding
  obtain rfl : exampleFunctions s number read ++ [attachCall target display] = part := by
    rw [← hhoisted]
    exact Except.ok.inj hpart
  rw [← hexamples]
  refine ⟨⟨exampleFunctions s number read, target, display, rfl, htarget, hencoding, ?_, ?_⟩, ?_, ?_⟩
  · rw [exampleFunctions_eq_mapIdx, List.length_mapIdx, List.length_map]
  · intro hne
    refine ⟨_, get?_examples_completed hread (by simpa using hne) number, ?_,
      fun j y hy => exists_isExample hmem hy⟩
    rw [numberedEntries_eq_mapIdx, List.length_mapIdx, List.length_map]
  · rw [definedFunctions_append, definedFunctions_exampleFunctions, List.length_map]
    exact List.append_nil _
  · rw [List.flatMap_append, attachedTags_exampleFunctions, List.flatMap_singleton,
      attachedTags_attachCall, htags]
    rfl

/-! ## Statements of all entities -/

/-- The statements of entities, the first example of which has a given number: the numbers go
on from entity to entity. -/
inductive ArePartsFrom (s : Settings) : Nat → List Record → List Entity → List Module → Prop where
  | nil (number : Nat) : ArePartsFrom s number [] [] []
  | cons {number : Nat} {r : Record} {e : Entity} {part : Module} {records : List Record}
      {entities : List Entity} {parts : List Module}
      (reference : e.reference = r.reference)
      (head : IsPart s number (Markdown.examples r.documentation) e part)
      (tail : ArePartsFrom s (number + (Markdown.examples r.documentation).length) records entities
        parts) :
      ArePartsFrom s number (r :: records) (e :: entities) (part :: parts)

/-- The examples of records, in their order. -/
def examplesOf (records : List Record) : List Example :=
  records.flatMap fun r => Markdown.examples r.documentation

theorem ArePartsFrom.definedFunctions_eq {number : Nat} {records : List Record}
    {entities : List Entity} {parts : List Module}
    (h : ArePartsFrom s number records entities parts) :
    definedFunctions parts.flatten =
      (List.range' number (examplesOf records).length).map s.identifier := by
  induction h with
  | nil => rfl
  | @cons number r e part records entities parts _ head _ ih =>
    have hlength : (examplesOf (r :: records)).length =
        (Markdown.examples r.documentation).length + (examplesOf records).length := by
      rw [examplesOf, List.flatMap_cons, List.length_append, examplesOf]
    rw [List.flatten_cons, definedFunctions_append, head.defined, ih, hlength, ← List.map_append,
      List.range'_append_1]

theorem ArePartsFrom.attachedTags_eq {number : Nat} {records : List Record}
    {entities : List Entity} {parts : List Module}
    (h : ArePartsFrom s number records entities parts) :
    parts.flatten.flatMap attachedTags = exampleTags s number (examplesOf records) := by
  induction h with
  | nil => rfl
  | @cons number r e part records entities parts _ head _ ih =>
    rw [List.flatten_cons, List.flatMap_append, head.tagged, ih, examplesOf, examplesOf,
      List.flatMap_cons, exampleTags_append]

theorem reference_of_entity {r : Record} {e : Entity} (h : r.entity = .ok e) :
    e.reference = r.reference := by
  rw [Record.entity] at h
  split at h
  · cases h
    rfl
  · cases h
  · cases h

theorem arePartsFrom_numberAll {records : List Record} {entities : List Entity}
    (hentities : records.mapM Record.entity = .ok entities) {xs : List Examined}
    (hxs : entities.mapM (examineEntity s) = .ok xs) {number : Nat} {parts : List Module}
    (hparts : (numberAll s number xs).mapM entityStatements = .ok parts) :
    ArePartsFrom s number records (numberAll s number xs) parts := by
  induction records generalizing entities xs number parts with
  | nil =>
    cases hentities
    cases hxs
    cases hparts
    exact .nil number
  | cons r records ih =>
    obtain ⟨e, moreEntities, he, hmoreEntities, rfl⟩ := mapM_cons_eq_ok.1 hentities
    obtain ⟨x, moreXs, hx, hmoreXs, rfl⟩ := mapM_cons_eq_ok.1 hxs
    obtain ⟨part, moreParts, hpart, hmoreParts, rfl⟩ := mapM_cons_eq_ok.1 hparts
    obtain ⟨read, hread, rfl⟩ := map_eq_ok.1 hx
    have hlength : read.length = (Markdown.examples r.documentation).length := by
      rw [← (examined_entity he hread).1, List.length_map]
    have hreference : e.reference = r.reference := reference_of_entity he
    have htail : ArePartsFrom s (number + read.length) records
        (numberAll s (number + read.length) moreXs) moreParts :=
      ih hmoreEntities hmoreXs hmoreParts
    refine .cons hreference (isPart_numbered he hx hpart) ?_
    rw [← hlength]
    exact htail

end Generation

/-- The functions of a module are those of the examples of its text.  Their names are numbered
without gap or repetition, and they stand in the order of the examples, those of an entity
directly before its attachment.  Each of them is tagged by the entry of its example and by
no other. -/
theorem generate_exampleFunctions {options : Options} (hname : options.settings.HasIdentifier)
    {source : Text} {statements : Module} (h : generate options source = .ok statements) :
    ∃ records entities parts, Record.ofText source = .ok records ∧
      entitiesOf options source = .ok entities ∧
      entities.mapM entityStatements = .ok parts ∧ statements = parts.flatten ∧
      ArePartsFrom options.settings 1 records entities parts ∧
      (∀ number, options.settings.identifier number =
        options.settings.stem ++ "_" ++ toString number) ∧
      definedFunctions statements =
        (List.range' 1 (examplesOf records).length).map options.settings.identifier ∧
      (definedFunctions statements).Nodup ∧
      statements.flatMap attachedTags = exampleTags options.settings 1 (examplesOf records) ∧
      (statements.flatMap attachedTags).map Prod.fst =
        (definedFunctions statements).map Expr.name := by
  obtain ⟨numbered, hnumbered, h⟩ := bind_eq_ok.1 h
  obtain ⟨parts, hparts, h⟩ := bind_eq_ok.1 h
  obtain rfl : parts.flatten = statements := Except.ok.inj h
  have hderived := hnumbered
  rw [entitiesOf_eq, analysed] at hderived
  obtain ⟨entities, hentities, hderived⟩ := bind_eq_ok.1 hderived
  obtain ⟨records, hrecords, hentities⟩ := bind_eq_ok.1 hentities
  rw [deriveAll_eq hname] at hderived
  obtain ⟨xs, hxs, rfl⟩ := map_eq_ok.1 hderived
  have hall := arePartsFrom_numberAll hentities hxs hparts
  have hdefined := hall.definedFunctions_eq
  have htags := hall.attachedTags_eq
  refine ⟨records, _, parts, mapError_eq_ok.1 hrecords, hnumbered, hparts, rfl, hall,
    options.settings.identifier_eq, hdefined, ?_, htags, ?_⟩
  · rw [hdefined]
    exact List.Nodup.map options.settings.identifier_injective List.nodup_range'
  · rw [htags, targets_exampleTags, hdefined]

/-- The functions of two entities with an example each. -/
theorem exampleFunctions_pairSource :
    Options.default.settings.HasIdentifier ∧ ∃ statements,
      generate .default pairSource = .ok statements ∧
        definedFunctions statements = ["_example_1", "_example_2"] ∧
        (statements.flatMap attachedTags).map Prod.fst =
          [.name "_example_1", .name "_example_2"] := by
  obtain ⟨statements, hstatements⟩ : ∃ statements, generate .default pairSource = .ok statements :=
    isOk_iff.1 (by decide +kernel)
  obtain ⟨records, entities, parts, hrecords, -, -, -, -, hidentifier, hdefined, -, -, htargets⟩ :=
    generate_exampleFunctions hasIdentifier_default hstatements
  have hcount : (Record.ofText pairSource).toOption.map (fun rs => (examplesOf rs).length) =
      some 2 := by
    decide +kernel
  rw [hrecords] at hcount
  have hlength : (examplesOf records).length = 2 := Option.some.inj hcount
  have hstem : Options.default.settings.stem = "_example" := by decide +kernel
  have hnames : definedFunctions statements = ["_example_1", "_example_2"] := by
    rw [hdefined, hlength]
    simp only [List.range'_succ, List.range'_zero, List.map_cons, List.map_nil, hidentifier, hstem]
    decide
  refine ⟨hasIdentifier_default, statements, hstatements, hnames, ?_⟩
  rw [htargets, hnames]
  rfl

end AnnotatedMarkdown
