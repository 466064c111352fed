import AnnotatedMarkdown.Compilation
import AnnotatedMarkdown.Proofs.Annotation.Segmentation
import AnnotatedMarkdown.Proofs.Compilation.Renumbering

/-!
# Independence of entities

A text is cut at its marker lines.  Here the statements of the whole text are compared with
those of its pieces, each of which is compiled as a text of its own.

* `Segment` is a piece, and `segments` are the pieces of a text.
* `analysed`, `entitiesOf` and `generate` are the stages of compilation: the analysis of
  metadata, the inference of examples and the emission of statements.
* `generate_segments` is the comparison.  The statements of the whole text are those of its
  pieces, renumbered.  If a piece fails, the whole text fails as the first piece does that
  fails at the earliest stage.
-/

namespace AnnotatedMarkdown

open Inference Generation Python Outcome

/-! ## Segments -/

/-- A marker line with its number and the lines up to the next marker. -/
structure Segment where
  line : Int
  marker : Text
  body : List Text

namespace Segment

/-- The segments of lines the first of which has a number. -/
def ofLines (number : Int) : List Text → List Segment
  | [] => []
  | line :: lines =>
    if opensRecord line then
      ⟨number, line, lines.takeWhile staysInSegment⟩ :: ofLines (number + 1) lines
    else ofLines (number + 1) lines

/-- The lines of a segment. -/
def lines (g : Segment) : List Text :=
  g.marker :: g.body

/-- A segment as a text of its own. -/
def text (g : Segment) : Text :=
  Text.join "\n" g.lines

/-- The record of a segment. -/
def record (g : Segment) : Record :=
  .ofSegment g.line g.marker g.body

/-- The entity of a segment that is a text of its own. -/
def entity (g : Segment) : Except Failure Entity :=
  (Record.ofSegment 1 g.marker g.body).entity

/-- A segment is made of lines, the first of which is the only marker. -/
structure IsProper (g : Segment) : Prop where
  breakFree : ∀ line ∈ g.lines, line.IsBreakFree
  marker : opensRecord g.marker = true
  body : ∀ line ∈ g.body, opensRecord line = false

theorem ofLines_eq_map (number : Int) (lines : List Text) :
    Record.ofLines number lines = (ofLines number lines).map record := by
  induction lines generalizing number with
  | nil => rfl
  | cons line lines ih =>
    rw [Record.ofLines, ofLines, ih]
    split <;> rfl

theorem isProper_of_mem_ofLines {number : Int} {lines : List Text}
    (hfree : ∀ line ∈ lines, line.IsBreakFree) {g : Segment} (hg : g ∈ ofLines number lines) :
    g.IsProper := by
  induction lines generalizing number with
  | nil => simp [ofLines] at hg
  | cons line lines ih =>
    have hlines : ∀ l ∈ lines, l.IsBreakFree := fun l hl => hfree l (List.mem_cons_of_mem line hl)
    rw [ofLines] at hg
    split at hg
    · rename_i hopens
      rcases List.mem_cons.1 hg with rfl | hg
      · refine ⟨?_, hopens, fun l hl => ?_⟩
        · intro l hl
          rcases List.mem_cons.1 hl with rfl | hl
          · exact hfree l List.mem_cons_self
          · exact hlines l (List.takeWhile_subset _ hl)
        · simpa [staysInSegment] using List.all_eq_true.1 List.all_takeWhile l hl
      · exact ih hlines hg
    · exact ih hlines hg

end Segment

/-- The segments of a text. -/
def segments (source : Text) : List Segment :=
  Segment.ofLines 1 (splitLines source)

theorem isProper_of_mem_segments {source : Text} {g : Segment} (hg : g ∈ segments source) :
    g.IsProper :=
  Segment.isProper_of_mem_ofLines (fun _ hline => isBreakFree_of_mem_splitLines hline) hg

/-! ## Stages -/

/-- The entities of a text before anything is derived. -/
def analysed (source : Text) : Except Failure (List Entity) := do
  analyse (← (Record.ofText source).mapError .diagnostic)

/-- The statements of the entities of a text. -/
def generate (options : Options) (source : Text) : Except Failure Module := do
  moduleStatements (← entitiesOf options source)

theorem entitiesOf_eq (options : Options) (source : Text) :
    entitiesOf options source = analysed source >>= deriveAll options.settings 1 := by
  rw [entitiesOf, analysed]
  cases (Record.ofText source).mapError Failure.diagnostic <;> rfl

/-- The module of a text is the print of its statements. -/
theorem compile_eq (options : Options) (source : Text) :
    compile options source = (do
      let statements ← generate options source
      return layout options.preludeLines (← moduleText statements)) := by
  rw [compile, generate]
  cases entitiesOf options source with
  | error f => rfl
  | ok entities =>
    simp only [ok_bind, emit]

/-- A failure that names the line of a marker, with another line. -/
def Failure.relocated (line : Int) : Failure → Failure
  | .diagnostic (.metadata cause reference (some _)) =>
    .diagnostic (.metadata cause reference (some line))
  | f => f

/-- An entity with another line. -/
def Entity.atLine (line : Int) (e : Entity) : Entity :=
  { e with line }

theorem entity_record (g : Segment) :
    g.record.entity = (g.entity.mapError (Failure.relocated g.line)).map (Entity.atLine g.line) := by
  simp only [Record.entity, Segment.entity, Segment.record, Record.ofSegment]
  cases Metadata.ofBlock (contentText (metadataLines g.body)) with
  | ok fields => rfl
  | error fault => cases fault <;> rfl

theorem analysed_text {g : Segment} (hg : g.IsProper) : analysed g.text = g.entity.map ([·]) := by
  have hlines : splitLines g.text = g.lines := splitLines_join (by simp [Segment.lines]) hg.breakFree
  have hrecords : Record.ofLines 1 g.lines = [.ofSegment 1 g.marker g.body] := by
    have hbody : g.body.takeWhile staysInSegment = g.body := by
      have hstays : ∀ line ∈ g.body, staysInSegment line = true := fun line hline => by
        simp [staysInSegment, hg.body line hline]
      have hall : (g.body ++ []).takeWhile staysInSegment = g.body ++ [].takeWhile staysInSegment :=
        List.takeWhile_append_of_pos hstays
      simpa using hall
    have hnone := Record.ofLines_append hg.body 2 []
    rw [Segment.lines, Record.ofLines, if_pos hg.marker, hbody]
    simpa [Record.ofLines] using hnone
  have htext : Record.ofText g.text = .ok [.ofSegment 1 g.marker g.body] := by
    rw [Record.ofText_of_opensRecord hlines hg.marker, ← Segment.lines, hrecords]
  rw [analysed, htext, Segment.entity]
  change [Record.ofSegment 1 g.marker g.body].mapM Record.entity = _
  rw [List.mapM_cons]
  cases (Record.ofSegment 1 g.marker g.body).entity <;> rfl

/-! ### Stages of a piece -/

section

variable {options : Options} (hname : options.settings.HasIdentifier)

include hname

theorem entitiesOf_text {g : Segment} (hg : g.IsProper) :
    entitiesOf options g.text =
      (g.entity >>= examineEntity options.settings).map fun x => [numbered options.settings 1 x] := by
  rw [entitiesOf_eq, analysed_text hg]
  cases g.entity with
  | error f => rfl
  | ok e =>
    simp only [map_ok, ok_bind, deriveAll_eq hname, List.mapM_cons]
    cases examineEntity options.settings e <;> rfl

theorem generate_text {g : Segment} (hg : g.IsProper) :
    generate options g.text =
      g.entity >>= examineEntity options.settings >>= fun x =>
        entityStatements (numbered options.settings 1 x) := by
  rw [generate, entitiesOf_text hname hg]
  cases g.entity >>= examineEntity options.settings with
  | error f => rfl
  | ok x =>
    change moduleStatements [numbered options.settings 1 x] = entityStatements _
    rw [moduleStatements, List.mapM_cons]
    cases entityStatements (numbered options.settings 1 x) with
    | error f => rfl
    | ok statements => exact congrArg Except.ok (List.append_nil statements)

end

/-! ### Stages of the whole text -/

/-- A text whose first line is a marker. -/
def StartsWithMarker (source : Text) : Prop :=
  ∃ first lines, splitLines source = first :: lines ∧ opensRecord first = true

theorem analysed_eq {source : Text} (hsource : StartsWithMarker source) :
    analysed source = (segments source).mapM fun g => g.record.entity := by
  obtain ⟨first, lines, hlines, hfirst⟩ := hsource
  rw [analysed, Record.ofText_of_opensRecord hlines hfirst, segments, hlines, Segment.ofLines_eq_map]
  exact List.mapM_map

theorem examineEntity_atLine (s : Settings) (line : Int) (e : Entity) :
    examineEntity s (e.atLine line) =
      (examineEntity s e).map fun x => (x.1.atLine line, x.2) := by
  rw [examineEntity, examineEntity, Entity.atLine]
  cases examined s e.reference e.metadata <;> rfl

instance : Nonempty Entity :=
  ⟨⟨[], 0, []⟩⟩

/-- Segments whose metadata are analysed have entities. -/
theorem exists_entities {source : Text}
    (h : ∀ g ∈ segments source, (analysed g.text).isOk = true) :
    ∃ entityOf : Segment → Entity, ∀ g ∈ segments source, g.entity = .ok (entityOf g) := by
  refine exists_results fun g hg => ?_
  obtain ⟨es, hes⟩ := isOk_iff.1 (h g hg)
  rw [analysed_text (isProper_of_mem_segments hg)] at hes
  obtain ⟨e, he, -⟩ := map_eq_ok.1 hes
  exact isOk_iff.2 ⟨e, he⟩

section

variable {options : Options} (hname : options.settings.HasIdentifier) {source : Text}
  (hsource : StartsWithMarker source)

include hsource in
/-- The metadata of the whole text are refused for the first segment whose metadata are. -/
theorem analysed_of_error {before after : List Segment} {g : Segment} {f : Failure}
    (hcut : segments source = before ++ g :: after)
    (hbefore : ∀ b ∈ before, (analysed b.text).isOk = true) (hg : analysed g.text = .error f) :
    analysed source = .error (f.relocated g.line) := by
  have hproper : ∀ b ∈ before ++ g :: after, b.IsProper := fun b hb =>
    isProper_of_mem_segments (hcut ▸ hb)
  rw [analysed_eq hsource, hcut]
  refine mapM_eq_error (fun b hb => ?_) ?_
  · obtain ⟨es, hes⟩ := isOk_iff.1 (hbefore b hb)
    rw [analysed_text (hproper b (by simp [hb]))] at hes
    obtain ⟨e, he, -⟩ := map_eq_ok.1 hes
    rw [entity_record, he]
    rfl
  · rw [analysed_text (hproper g (by simp))] at hg
    rw [entity_record]
    cases he : g.entity with
    | ok e => simp [he] at hg
    | error f' =>
      obtain rfl : f' = f := by simpa [he] using hg
      rfl

include hsource in
/-- If the metadata of all segments are analysed, so are those of the whole text. -/
theorem analysed_of_entities {entityOf : Segment → Entity}
    (h : ∀ g ∈ segments source, g.entity = .ok (entityOf g)) :
    analysed source = .ok ((segments source).map fun g => (entityOf g).atLine g.line) := by
  rw [analysed_eq hsource]
  refine mapM_eq_ok_map fun g hg => ?_
  rw [entity_record, h g hg]
  rfl

include hname hsource

/-- The examples of the whole text are those of its segments, with their own numbers. -/
theorem entitiesOf_of_entities {entityOf : Segment → Entity}
    (h : ∀ g ∈ segments source, g.entity = .ok (entityOf g)) :
    entitiesOf options source =
      ((segments source).mapM fun g =>
        (examineEntity options.settings (entityOf g)).map fun x => (x.1.atLine g.line, x.2)).map
          (numberAll options.settings 1) := by
  rw [entitiesOf_eq, analysed_of_entities hsource h, ok_bind, deriveAll_eq hname, List.mapM_map]
  simp only [Function.comp_def, examineEntity_atLine]

/-- The examples of the whole text are refused for the first segment whose examples are. -/
theorem entitiesOf_of_error {before after : List Segment} {g : Segment} {f : Failure}
    (hanalysed : ∀ b ∈ segments source, (analysed b.text).isOk = true)
    (hcut : segments source = before ++ g :: after)
    (hbefore : ∀ b ∈ before, (entitiesOf options b.text).isOk = true)
    (hg : entitiesOf options g.text = .error f) : entitiesOf options source = .error f := by
  obtain ⟨entityOf, hentity⟩ := exists_entities hanalysed
  have hmem : ∀ b ∈ before ++ g :: after, b ∈ segments source := fun b hb => hcut ▸ hb
  have hexamined : ∀ b ∈ segments source, entitiesOf options b.text =
      (examineEntity options.settings (entityOf b)).map fun x => [numbered options.settings 1 x] := by
    intro b hb
    rw [entitiesOf_text hname (isProper_of_mem_segments hb), hentity b hb, ok_bind]
  rw [entitiesOf_of_entities hname hsource hentity, hcut, map_eq_error]
  refine mapM_eq_error (fun b hb => ?_) ?_
  · obtain ⟨es, hes⟩ := isOk_iff.1 (hbefore b hb)
    rw [hexamined b (hmem b (by simp [hb]))] at hes
    obtain ⟨x, hx, -⟩ := map_eq_ok.1 hes
    rw [hx]
    rfl
  · rw [hexamined g (hmem g (by simp))] at hg
    rw [map_eq_error.1 hg]
    rfl

/-- If all segments have their examples, the statements of the whole text are those of its
segments up to the first failure, renumbered. -/
theorem generate_eq (hentities : ∀ g ∈ segments source, (entitiesOf options g.text).isOk = true) :
    generate options source =
      ((segments source).mapM fun g => generate options g.text).map fun parts =>
        renumber options.settings 1 [] parts.flatten := by
  have hexamined : ∀ g ∈ segments source, ∃ e x, g.entity = .ok e ∧
      examineEntity options.settings e = .ok x := by
    intro g hg
    obtain ⟨es, hes⟩ := isOk_iff.1 (hentities g hg)
    rw [entitiesOf_text hname (isProper_of_mem_segments hg)] at hes
    obtain ⟨x, hx, -⟩ := map_eq_ok.1 hes
    obtain ⟨e, he, hx⟩ := bind_eq_ok.1 hx
    exact ⟨e, x, he, hx⟩
  obtain ⟨entityOf, hentity⟩ : ∃ entityOf : Segment → Entity,
      ∀ g ∈ segments source, g.entity = .ok (entityOf g) :=
    exists_results fun g hg => by
      obtain ⟨e, x, he, -⟩ := hexamined g hg
      exact isOk_iff.2 ⟨e, he⟩
  obtain ⟨read, hread⟩ : ∃ read : Segment → Examined,
      ∀ g ∈ segments source, examineEntity options.settings (entityOf g) = .ok (read g) :=
    exists_results fun g hg => by
      obtain ⟨e, x, he, hx⟩ := hexamined g hg
      obtain rfl : entityOf g = e := by simpa [hentity g hg] using he
      exact isOk_iff.2 ⟨x, hx⟩
  have hall : entitiesOf options source = .ok (numberAll options.settings 1
      ((segments source).map fun g => ((read g).1.atLine g.line, (read g).2))) := by
    rw [entitiesOf_of_entities hname hsource hentity, mapM_eq_ok_map fun g hg => by rw [hread g hg]; rfl]
    rfl
  have hfields : ∀ x ∈ (segments source).map fun g => ((read g).1.atLine g.line, (read g).2),
      ∃ e : Entity, e.metadata.IsFieldList ∧ examineEntity options.settings e = .ok x := by
    intro x hx
    obtain ⟨g, hg, rfl⟩ := List.mem_map.1 hx
    have hmetadata : (entityOf g).metadata.IsFieldList := isFieldList_entity (hentity g hg)
    refine ⟨(entityOf g).atLine g.line, hmetadata, ?_⟩
    rw [examineEntity_atLine, hread g hg]
    rfl
  rw [generate, hall, ok_bind, moduleStatements_numberAll hfields, List.mapM_map]
  congr 1
  refine mapM_congr_left fun g hg => ?_
  rw [generate_text hname (isProper_of_mem_segments hg), hentity g hg, ok_bind, hread g hg]
  rfl

/-- The entities of a text are compiled independently of each other.  If all segments have
statements, those of the whole text are their concatenation, renumbered.  Otherwise the
whole text fails at the earliest stage at which a segment fails, as the first segment does
that fails there. -/
theorem generate_segments :
    (∀ parts, (segments source).mapM (fun g => generate options g.text) = .ok parts →
      generate options source = .ok (renumber options.settings 1 [] parts.flatten)) ∧
    ∀ before g after f, segments source = before ++ g :: after →
      ((∀ b ∈ before, (analysed b.text).isOk = true) → analysed g.text = .error f →
        generate options source = .error (f.relocated g.line)) ∧
      ((∀ b ∈ segments source, (analysed b.text).isOk = true) →
        (∀ b ∈ before, (entitiesOf options b.text).isOk = true) →
        entitiesOf options g.text = .error f → generate options source = .error f) ∧
      ((∀ b ∈ segments source, (entitiesOf options b.text).isOk = true) →
        (∀ b ∈ before, (generate options b.text).isOk = true) →
        generate options g.text = .error f → generate options source = .error f) := by
  refine ⟨fun parts hparts => ?_, fun before g after f hcut => ⟨?_, ?_, ?_⟩⟩
  · have hentities : ∀ g ∈ segments source, (entitiesOf options g.text).isOk = true := by
      intro g hg
      obtain ⟨statements, hstatements⟩ := exists_of_mapM_eq_ok hparts hg
      obtain ⟨es, hes, -⟩ := bind_eq_ok.1 hstatements
      exact isOk_iff.2 ⟨es, hes⟩
    rw [generate_eq hname hsource hentities, hparts]
    rfl
  · intro hbefore hg
    rw [generate, entitiesOf_eq, analysed_of_error hsource hcut hbefore hg]
    rfl
  · intro hanalysed hbefore hg
    rw [generate, entitiesOf_of_error hname hsource hanalysed hcut hbefore hg]
    rfl
  · intro hentities hbefore hg
    rw [generate_eq hname hsource hentities, hcut, mapM_eq_error hbefore hg]
    rfl

end

/-- Two entities with an example each. -/
def pairSource : Text :=
  "@annotate: f\n---\nT::\n\n    x\n@annotate: g\n---\nT::\n\n    f()"

theorem startsWithMarker_pairSource : StartsWithMarker pairSource :=
  ⟨"@annotate: f", ["---", "T::", [], "    x", "@annotate: g", "---", "T::", [], "    f()"],
    by decide +kernel, by decide +kernel⟩

theorem generate_pairSource_segments :
    Options.default.settings.HasIdentifier ∧ StartsWithMarker pairSource ∧
      ∃ parts, (segments pairSource).mapM (fun g => generate .default g.text) = .ok parts ∧
        generate .default pairSource =
          .ok (renumber Options.default.settings 1 [] parts.flatten) := by
  obtain ⟨parts, hparts⟩ : ∃ parts,
      (segments pairSource).mapM (fun g => generate .default g.text) = .ok parts :=
    isOk_iff.1 (by decide +kernel)
  exact ⟨hasIdentifier_default, startsWithMarker_pairSource, parts, hparts,
    (generate_segments hasIdentifier_default startsWithMarker_pairSource).1 parts hparts⟩

end AnnotatedMarkdown
