import AnnotatedMarkdown.Annotation.Record
import AnnotatedMarkdown.Proofs.Annotation.Line

/-!
# Segmentation of a text at its marker lines

The reduction of tagged lines is a fold with a mode.  This module compares it with a
reading that has no state: every marker line opens a segment, which reaches up to the
next marker line, and the first separator of a segment divides its metadata from its
documentation.

* `Record.ofLines` is the stateless reading.
* `Reduction.run_opened` is the invariant of the fold.  From any state with an open
  record, the lines up to the next marker continue this record, and the lines from there
  on are read without regard to the state.
* `Record.linesOf` are the lines that `Record.render` writes.  `Record.ofLines_linesOf`
  reads them back.
* `Record.ofText_segments_and_renderings` joins the two directions.
-/

namespace AnnotatedMarkdown

/-! ## Segments -/

/-- Lines with a line feed in front of each. -/
def contentText (lines : List Text) : Text :=
  lines.flatMap fun line => .scalar '\n' :: line

/-- Whether a line belongs to the segment of the marker before it. -/
def staysInSegment (line : Text) : Bool :=
  !opensRecord line

/-- Whether a line is no separator. -/
def isNoSeparator (line : Text) : Bool :=
  !isSeparator line

/-- The metadata lines of a segment: those before its first separator. -/
def metadataLines (segment : List Text) : List Text :=
  segment.takeWhile isNoSeparator

/-- The documentation lines of a segment: those after its first separator that are no
separators. -/
def documentationLines (segment : List Text) : List Text :=
  (segment.dropWhile isNoSeparator).filter isNoSeparator

namespace Record

/-- The record of a marker line with a number and of the segment after it. -/
def ofSegment (number : Int) (marker : Text) (segment : List Text) : Record :=
  { reference := Text.trim (marker.drop markerLead.length)
    line := number
    metadata := contentText (metadataLines segment)
    documentation := contentText (documentationLines segment) }

/-- The records of lines the first of which has a number: one for each marker line, with
the segment up to the next one. -/
def ofLines (number : Int) : List Text → List Record
  | [] => []
  | line :: lines =>
    if opensRecord line then
      ofSegment number line (lines.takeWhile staysInSegment) :: ofLines (number + 1) lines
    else ofLines (number + 1) lines

/-- A record after further lines of its segment. -/
def continued (r : Record) (inMetadata : Bool) (segment : List Text) : Record :=
  if inMetadata then
    { r with
      metadata := r.metadata ++ contentText (metadataLines segment)
      documentation := r.documentation ++ contentText (documentationLines segment) }
  else { r with documentation := r.documentation ++ contentText (segment.filter isNoSeparator) }

@[simp] theorem continued_nil (r : Record) (inMetadata : Bool) : r.continued inMetadata [] = r := by
  cases inMetadata <;> simp [continued, contentText, metadataLines, documentationLines]

theorem opened_continued (reference : Text) (number : Int) (segment : List Text) :
    (opened reference number).continued true segment =
      ⟨reference, number, contentText (metadataLines segment),
        contentText (documentationLines segment)⟩ := by
  simp [continued, opened]

/-- A separator ends the metadata and adds nothing. -/
theorem continued_separator {line : Text} (h : isSeparator line = true) (r : Record)
    (inMetadata : Bool) (segment : List Text) :
    r.continued inMetadata (line :: segment) = r.continued false segment := by
  have hno : isNoSeparator line = false := by simp [isNoSeparator, h]
  cases inMetadata <;>
    simp [continued, metadataLines, documentationLines, contentText, hno]

/-- A content line is added to the part of the record that is open. -/
theorem continued_content {line : Text} (h : isSeparator line = false) (r : Record)
    (inMetadata : Bool) (segment : List Text) :
    r.continued inMetadata (line :: segment) =
      (if inMetadata then r.addMetadata line else r.addDocumentation line).continued inMetadata
        segment := by
  have hno : isNoSeparator line = true := by simp [isNoSeparator, h]
  cases inMetadata <;>
    simp [continued, metadataLines, documentationLines, contentText, addMetadata,
      addDocumentation, hno]

end Record

/-! ## The reduction of tagged lines -/

namespace Reduction

/-- The invariant of the reduction: the lines up to the next marker continue the open
record, and the records of the lines from there on do not depend on the state. -/
theorem run_opened {lines : List Text} (hfree : ∀ line ∈ lines, line.IsBreakFree)
    (r : Record) (inMetadata : Bool) (completed : List Record) (number : Int) :
    run ⟨some r, inMetadata, completed⟩ number (lines.map Tag.ofLine) =
      .ok ⟨none, false,
        completed ++ r.continued inMetadata (lines.takeWhile staysInSegment)
          :: Record.ofLines number lines⟩ := by
  induction lines generalizing r inMetadata completed number with
  | nil => simp [run, step, records, Record.ofLines]
  | cons line lines ih =>
    have hline : line.IsBreakFree := hfree line List.mem_cons_self
    have hlines : ∀ l ∈ lines, l.IsBreakFree := fun l hl => hfree l (List.mem_cons_of_mem line hl)
    rw [List.map_cons, Tag.ofLine_of_isBreakFree hline, Record.ofLines]
    cases hopens : opensRecord line with
    | true =>
      -- A marker completes the open record and opens the next one.
      have hnext := ih hlines (.opened (Text.trim (line.drop markerLead.length)) number) true
        (completed ++ [r]) (number + 1)
      rw [Record.opened_continued] at hnext
      simpa [run, step, records, staysInSegment, hopens, Record.ofSegment, bind, Except.bind]
        using hnext
    | false =>
      have hstays : staysInSegment line = true := by simp [staysInSegment, hopens]
      rw [List.takeWhile_cons_of_pos hstays]
      cases hseparator : isSeparator line with
      | true =>
        rw [Record.continued_separator hseparator]
        simpa [run, step, bind, Except.bind] using ih hlines r false completed (number + 1)
      | false =>
        rw [Record.continued_content hseparator]
        simpa [run, step, bind, Except.bind] using
          ih hlines (if inMetadata then r.addMetadata line else r.addDocumentation line)
            inMetadata completed (number + 1)

end Reduction

namespace Record

/-- The lines of a text that starts with a marker line are read segment by segment. -/
theorem ofTags_of_opensRecord {first : Text} {lines : List Text}
    (hfree : ∀ line ∈ first :: lines, line.IsBreakFree) (hopens : opensRecord first = true) :
    ofTags ((first :: lines).map Tag.ofLine) = .ok (ofLines 1 (first :: lines)) := by
  have hfirst : first.IsBreakFree := hfree first List.mem_cons_self
  have hlines : ∀ l ∈ lines, l.IsBreakFree := fun l hl => hfree l (List.mem_cons_of_mem first hl)
  have hrun := Reduction.run_opened hlines (.opened (Text.trim (first.drop markerLead.length)) 1)
    true [] 2
  rw [opened_continued] at hrun
  rw [ofTags, List.map_cons, Tag.ofLine_of_isBreakFree hfirst, ofLines]
  simp [Reduction.run, Reduction.step, Reduction.start, Reduction.records, hopens, ofSegment,
    bind, Except.bind, Except.map, hrun]

/-- Why a text whose first line is no marker is refused. -/
def startCause (first : Text) : StructuralCause :=
  if isSeparator first then .separatorOutside else .contentOutside

/-- A first line that is no marker is refused at once. -/
theorem ofTags_of_not_opensRecord {first : Text} {lines : List Text}
    (hfirst : first.IsBreakFree) (hopens : opensRecord first = false) :
    ofTags ((first :: lines).map Tag.ofLine) = .error (.structural (startCause first) 1) := by
  rw [ofTags, List.map_cons, Tag.ofLine_of_isBreakFree hfirst, startCause]
  cases hseparator : isSeparator first <;>
    simp [Reduction.run, Reduction.step, Reduction.start, hopens, bind, Except.bind, Except.map]

/-! ## Rendered records -/

/-- A line that a segment holds as content. -/
structure IsContentLine (line : Text) : Prop where
  breakFree : line.IsBreakFree
  noMarker : opensRecord line = false
  noSeparator : isSeparator line = false

/-- A record that can be written and read back: its reference is trimmed and on one line,
and its metadata and its documentation are made of content lines. -/
structure IsRenderable (r : Record) : Prop where
  trimmed : r.reference.trim = r.reference
  breakFree : r.reference.IsBreakFree
  metadata : ∃ lines, r.metadata = contentText lines ∧ ∀ line ∈ lines, IsContentLine line
  documentation : ∃ lines, r.documentation = contentText lines ∧ ∀ line ∈ lines, IsContentLine line

/-- The separator that `render` writes. -/
def separatorLine : Text :=
  "---"

/-- The lines of a rendered record with given metadata and documentation lines. -/
def linesOf (reference : Text) (metadata documentation : List Text) : List Text :=
  (markerLead ++ reference) :: (metadata ++ separatorLine :: documentation)

/-- The texts of a record. -/
def texts (r : Record) : Text × Text × Text :=
  (r.reference, r.metadata, r.documentation)

/-! ### Joined lines -/

theorem contentText_append (lines more : List Text) :
    contentText (lines ++ more) = contentText lines ++ contentText more := by
  simp [contentText]

theorem cons_join {lines : List Text} (hne : lines ≠ []) :
    .scalar '\n' :: Text.join "\n" lines = contentText lines := by
  induction lines with
  | nil => exact absurd rfl hne
  | cons line rest ih =>
    cases rest with
    | nil => simp [Text.join, contentText]
    | cons second rest =>
      have hrest := ih (by simp)
      simp only [contentText, List.flatMap_cons] at hrest ⊢
      rw [← hrest]
      simp [Text.join, Text.ofString, Text.ofChars]

/-- A rendered record is the join of its lines. -/
theorem cons_render {r : Record} {metadata documentation : List Text}
    (hmetadata : r.metadata = contentText metadata)
    (hdocumentation : r.documentation = contentText documentation) :
    .scalar '\n' :: r.render = contentText (linesOf r.reference metadata documentation) := by
  simp [render, linesOf, separatorLine, contentText, hmetadata, hdocumentation, Text.concat,
    Text.ofString, Text.ofChars]

/-! ### Reading rendered lines -/

theorem isBreakFree_markerLead : markerLead.IsBreakFree := by
  decide

theorem isBreakFree_separatorLine : separatorLine.IsBreakFree := by
  decide

theorem isSeparator_separatorLine : isSeparator separatorLine = true := by
  decide

theorem opensRecord_separatorLine : opensRecord separatorLine = false := by
  decide

/-- Lines that are no markers belong to no segment of their own. -/
theorem ofLines_append {body : List Text} (hbody : ∀ line ∈ body, opensRecord line = false)
    (number : Int) (rest : List Text) :
    ofLines number (body ++ rest) = ofLines (number + body.length) rest := by
  induction body generalizing number with
  | nil => simp
  | cons line body ih =>
    have hline : opensRecord line = false := hbody line List.mem_cons_self
    have hrest : ∀ l ∈ body, opensRecord l = false := fun l hl =>
      hbody l (List.mem_cons_of_mem line hl)
    rw [List.cons_append, ofLines, if_neg (by simp [hline]), ih hrest, List.length_cons]
    congr 1
    omega

theorem metadataLines_linesOf {metadata : List Text}
    (h : ∀ line ∈ metadata, IsContentLine line) (documentation : List Text) :
    metadataLines (metadata ++ separatorLine :: documentation) = metadata := by
  have hall : ∀ line ∈ metadata, isNoSeparator line = true := fun line hline => by
    simp [isNoSeparator, (h line hline).noSeparator]
  rw [metadataLines, List.takeWhile_append_of_pos hall,
    List.takeWhile_cons_of_neg (by simp [isNoSeparator, isSeparator_separatorLine]),
    List.append_nil]

theorem documentationLines_linesOf {metadata documentation : List Text}
    (hmetadata : ∀ line ∈ metadata, IsContentLine line)
    (hdocumentation : ∀ line ∈ documentation, IsContentLine line) :
    documentationLines (metadata ++ separatorLine :: documentation) = documentation := by
  have hall : ∀ line ∈ metadata, isNoSeparator line = true := fun line hline => by
    simp [isNoSeparator, (hmetadata line hline).noSeparator]
  have hno : ¬ isNoSeparator separatorLine = true := by
    simp [isNoSeparator, isSeparator_separatorLine]
  rw [documentationLines, List.dropWhile_append_of_pos hall, List.dropWhile_cons_of_neg hno,
    List.filter_cons_of_neg hno, List.filter_eq_self]
  intro line hline
  simp [isNoSeparator, (hdocumentation line hline).noSeparator]

/-- The lines of a rendered record are read back, whatever comes after them from the next
marker line on. -/
theorem ofLines_linesOf {r : Record} {metadata documentation rest : List Text}
    (htrimmed : r.reference.trim = r.reference)
    (hmetadata : ∀ line ∈ metadata, IsContentLine line)
    (hdocumentation : ∀ line ∈ documentation, IsContentLine line)
    (hrest : rest.takeWhile staysInSegment = []) (number : Int) :
    ∃ next, ofLines number (linesOf r.reference metadata documentation ++ rest) =
      ⟨r.reference, number, contentText metadata, contentText documentation⟩
        :: ofLines next rest := by
  have hbody : ∀ line ∈ metadata ++ separatorLine :: documentation, opensRecord line = false := by
    intro line hline
    rcases List.mem_append.1 hline with hline | hline
    · exact (hmetadata line hline).noMarker
    · rcases List.mem_cons.1 hline with rfl | hline
      · exact opensRecord_separatorLine
      · exact (hdocumentation line hline).noMarker
  have hsegment :
      ((metadata ++ separatorLine :: documentation) ++ rest).takeWhile staysInSegment =
        metadata ++ separatorLine :: documentation := by
    rw [List.takeWhile_append_of_pos (fun line hline => by simp [staysInSegment, hbody line hline]),
      hrest, List.append_nil]
  have hmarker : opensRecord (markerLead ++ r.reference) = true :=
    opensRecord_iff.2 ⟨r.reference, rfl⟩
  refine ⟨number + 1 + (metadata ++ separatorLine :: documentation).length, ?_⟩
  rw [linesOf, List.cons_append, ofLines, if_pos hmarker, hsegment, ofLines_append hbody, ofSegment,
    metadataLines_linesOf hmetadata, documentationLines_linesOf hmetadata hdocumentation,
    List.drop_left, htrimmed]

/-- Renderable records are written as lines that are read back as the same texts. -/
theorem exists_lines_of_isRenderable {records : List Record}
    (h : ∀ r ∈ records, r.IsRenderable) :
    ∃ lines : List Text, contentText (records.map render) = contentText lines ∧
      (∀ line ∈ lines, line.IsBreakFree) ∧ lines.takeWhile staysInSegment = [] ∧
      (lines = [] → records = []) ∧
      ∀ number, (ofLines number lines).map texts = records.map texts := by
  induction records with
  | nil => exact ⟨[], rfl, by simp, rfl, fun _ => rfl, fun _ => rfl⟩
  | cons r records ih =>
    obtain ⟨rest, htext, hfree, hstart, -, hread⟩ :=
      ih fun q hq => h q (List.mem_cons_of_mem r hq)
    obtain ⟨htrimmed, hreference, ⟨metadata, hmetadata, hmlines⟩,
      ⟨documentation, hdocumentation, hdlines⟩⟩ := h r List.mem_cons_self
    refine ⟨linesOf r.reference metadata documentation ++ rest, ?_, ?_, ?_, ?_, ?_⟩
    · rw [contentText_append, ← htext, ← cons_render hmetadata hdocumentation]
      rfl
    · intro line hline
      rcases List.mem_append.1 hline with hline | hline
      · rcases List.mem_cons.1 hline with rfl | hline
        · exact Text.isBreakFree_append.2 ⟨isBreakFree_markerLead, hreference⟩
        · rcases List.mem_append.1 hline with hline | hline
          · exact (hmlines line hline).breakFree
          · rcases List.mem_cons.1 hline with rfl | hline
            · exact isBreakFree_separatorLine
            · exact (hdlines line hline).breakFree
      · exact hfree line hline
    · have hmarker : opensRecord (markerLead ++ r.reference) = true :=
        opensRecord_iff.2 ⟨r.reference, rfl⟩
      rw [linesOf, List.cons_append,
        List.takeWhile_cons_of_neg (by simp [staysInSegment, hmarker])]
    · simp [linesOf]
    · intro number
      obtain ⟨next, hnext⟩ := ofLines_linesOf htrimmed hmlines hdlines hstart number
      rw [hnext, List.map_cons, List.map_cons, hread next]
      simp [texts, hmetadata, hdocumentation]

/-- A text that starts with a marker line is read segment by segment. -/
theorem ofText_of_opensRecord {source first : Text} {lines : List Text}
    (hlines : splitLines source = first :: lines) (hopens : opensRecord first = true) :
    ofText source = .ok (ofLines 1 (first :: lines)) := by
  have hfree : ∀ line ∈ first :: lines, line.IsBreakFree := fun line hline =>
    isBreakFree_of_mem_splitLines (hlines ▸ hline)
  rw [ofText, hlines, ofTags_of_opensRecord hfree hopens]

/-- A text that starts with another line is refused at this line. -/
theorem ofText_of_not_opensRecord {source first : Text} {lines : List Text}
    (hlines : splitLines source = first :: lines) (hopens : opensRecord first = false) :
    ofText source = .error (.structural (startCause first) 1) := by
  have hfree : first.IsBreakFree :=
    isBreakFree_of_mem_splitLines (hlines ▸ List.mem_cons_self)
  rw [ofText, hlines, ofTags_of_not_opensRecord hfree hopens]

/-- The records of a text are the segments at its marker lines.  A text is refused exactly
if its first line is no marker, and then at line 1.  Renderable records are read back from
their renderings. -/
theorem ofText_segments_and_renderings :
    (∀ source : Text, ∃ first lines, splitLines source = first :: lines ∧
      ofText source =
        if opensRecord first then .ok (ofLines 1 (splitLines source))
        else .error (.structural (startCause first) 1)) ∧
    ∀ records : List Record, records ≠ [] → (∀ r ∈ records, r.IsRenderable) →
      ∃ read, ofText (Text.join "\n" (records.map render)) = .ok read ∧
        read.map texts = records.map texts := by
  have hread : ∀ source : Text, ∃ first lines, splitLines source = first :: lines ∧
      ofText source =
        if opensRecord first then .ok (ofLines 1 (splitLines source))
        else .error (.structural (startCause first) 1) := by
    intro source
    obtain ⟨first, lines, hlines⟩ := List.exists_cons_of_ne_nil (splitLines_ne_nil source)
    refine ⟨first, lines, hlines, ?_⟩
    cases hopens : opensRecord first with
    | true => rw [if_pos rfl, ofText_of_opensRecord hlines hopens, hlines]
    | false => rw [if_neg (by simp), ofText_of_not_opensRecord hlines hopens]
  refine ⟨hread, fun records hne hrenderable => ?_⟩
  obtain ⟨lines, htext, hfree, hstart, hempty, htexts⟩ := exists_lines_of_isRenderable hrenderable
  have hlines : lines ≠ [] := fun h => hne (hempty h)
  have hjoin : Text.join "\n" (records.map render) = Text.join "\n" lines := by
    have hmap : records.map render ≠ [] := by simpa using hne
    have := cons_join hmap
    rw [htext, ← cons_join hlines] at this
    exact List.tail_eq_of_cons_eq this
  refine ⟨ofLines 1 lines, ?_, htexts 1⟩
  obtain ⟨first, rest, hcut, hresult⟩ := hread (Text.join "\n" (records.map render))
  rw [hjoin, splitLines_join hlines hfree] at hcut hresult
  rw [hcut] at hstart
  cases hopens : opensRecord first with
  | true => rw [hjoin, hresult, if_pos hopens]
  | false =>
    rw [List.takeWhile_cons_of_pos (by simp [staysInSegment, hopens])] at hstart
    exact absurd hstart (by simp)

/-- A record with metadata, an empty line of documentation and a line that is nearly a
separator. -/
def sample : Record :=
  ⟨"m.f", 1, "\nstability: stable", "\n\n--"⟩

theorem isRenderable_sample : sample.IsRenderable where
  trimmed := by decide
  breakFree := by decide
  metadata := ⟨["stability: stable"], by decide, by
    intro line hline
    obtain rfl := List.mem_singleton.1 hline
    exact ⟨by decide, by decide, by decide⟩⟩
  documentation := ⟨[[], "--"], by decide, by
    intro line hline
    rcases List.mem_cons.1 hline with rfl | hline
    · exact ⟨by decide, by decide, by decide⟩
    · obtain rfl := List.mem_singleton.1 hline
      exact ⟨by decide, by decide, by decide⟩⟩

theorem ofText_render_sample_twice :
    (∀ r ∈ [sample, sample], r.IsRenderable) ∧
      ∃ read, ofText (Text.join "\n" ([sample, sample].map render)) = .ok read ∧
        read.map texts = [sample, sample].map texts := by
  have hrenderable : ∀ r ∈ [sample, sample], r.IsRenderable := by
    simp [isRenderable_sample]
  exact ⟨hrenderable, ofText_segments_and_renderings.2 [sample, sample] (by simp) hrenderable⟩

end Record

end AnnotatedMarkdown
