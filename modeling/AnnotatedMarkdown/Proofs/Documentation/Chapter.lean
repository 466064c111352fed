import AnnotatedMarkdown.Proofs.Documentation.Section
import AnnotatedMarkdown.Proofs.Markdown.Reading

/-!
# Chapters

The documented way to write examples is one chapter for each of them: a heading that ends in a
marker, fenced code under it, and a paragraph that ends in a marker in front of any further
code.  This module shows that chapters are read as they are written.

* `Title`, `Lead` and `Fragment` are what a chapter is made of.  They hold their conditions, so
  every chapter is one that can be written.
* `render` writes chapters as a text, and `blocks_render` says which blocks the text has.
* `examples_render` is the result: each chapter yields one example, with the title of the chapter
  as its name and all code as it was.
-/

namespace AnnotatedMarkdown

namespace Documentation

open Text Markdown

/-! ## Parts of chapters -/

/-- Whether a code point is kept when line breaks are unified. -/
def isKept (c : CodePoint) : Bool :=
  c != .scalar '\r' && c != .scalar '\x00'

/-- A title without blanks at its ends, such as words with spaces between them. -/
structure Title where
  text : Text
  trim_text : text.trim = text
  isKept_text : ∀ c ∈ text, isKept c = true
  isInLine_text : ∀ c ∈ text, c.isLineFeed = false

/-- The text of a paragraph that leads to an example. -/
structure Lead where
  text : Text
  isParagraph_text : isParagraph ((text.splitBy CodePoint.isLineFeed).map (Line.ofText · true)) = true
  isLead_text : isLead text = true
  isKept_text : ∀ c ∈ text, isKept c = true

/-- Code without marks of fences and blanks at its end, and the fence in which it is written. -/
structure Fragment where
  code : Text
  marks : Nat := 3
  info : Text := []
  code_ne_nil : code ≠ []
  trimEnd_code : code.trimEnd = code
  isTick_code : ∀ c ∈ code, isTick c = false
  isKept_code : ∀ c ∈ code, isKept c = true
  three_le_marks : 3 ≤ marks := by decide
  isTick_info : ∀ c ∈ info, isTick c = false := by decide
  isKept_info : ∀ c ∈ info, isKept c = true := by decide
  isInLine_info : ∀ c ∈ info, c.isLineFeed = false := by decide

/-- A part of a chapter, which empty lines keep apart from the others. -/
inductive Part where
  | heading (title : Title)
  | lead (lead : Lead)
  | code (fragment : Fragment)

/-- A part as it is written. -/
def Part.text : Part → Text
  | .heading title => "## " ++ (title.text ++ marker)
  | .lead l => l.text
  | .code fragment =>
    ticks fragment.marks ++ fragment.info ++
      .scalar '\n' :: (fragment.code ++ .scalar '\n' :: ticks fragment.marks)

/-- A part as it is read. -/
def Part.block : Part → Block
  | .heading title => .heading (title.text ++ marker)
  | .lead l => .paragraph l.text.trim
  | .code fragment => .code (fragment.code ++ [.scalar '\n'])

/-- A title with code under it; a paragraph leads to each further fragment. -/
structure Chapter where
  title : Title
  first : Fragment
  more : List (Lead × Fragment)

namespace Chapter

/-- The parts of a chapter in their order. -/
def parts (c : Chapter) : List Part :=
  .heading c.title :: .code c.first :: c.more.flatMap fun (l, fragment) =>
    [.lead l, .code fragment]

/-- The code of a chapter. -/
def codes (c : Chapter) : List Text :=
  c.first.code :: c.more.map fun (_, fragment) => fragment.code

end Chapter

/-- Chapters as a text, with an empty line between each two parts. -/
def render (chapters : List Chapter) : Text :=
  join "\n\n" ((chapters.flatMap Chapter.parts).map Part.text)

/-! ## Titles -/

namespace Title

variable (title : Title)

theorem trimEnd_text : title.text.trimEnd = title.text := by
  have htrim := title.trim_text
  rwa [Text.trim, trimStart_of_trim_eq htrim] at htrim

theorem trim_append_marker : Text.trim (title.text ++ marker) = title.text ++ marker := by
  have hstart : Text.trimStart (title.text ++ marker) = title.text ++ marker := by
    have hself := trimStart_of_trim_eq title.trim_text
    cases htext : title.text with
    | nil => rfl
    | cons c t =>
      rw [htext, Text.trimStart, List.dropWhile_eq_self_iff] at hself
      rw [Text.trimStart, List.cons_append, List.dropWhile_cons_of_neg (by simpa using hself)]
  have hconcat : title.text ++ marker = title.text ++ [.scalar ':'] ++ [.scalar ':'] := by
    simp [marker_eq]
  rw [Text.trim, hstart, hconcat, Text.trimEnd, trimEndBy_concat (by decide)]

theorem exampleName_append_marker : exampleName (some (title.text ++ marker)) = title.text := by
  have hends : EndsInMarker CodePoint.isBlank (title.text ++ marker) :=
    ⟨title.text, [], by rw [List.append_nil], rfl⟩
  have hconcat : title.text ++ marker = title.text ++ [.scalar ':'] ++ [.scalar ':'] := by
    simp [marker_eq]
  have htrimmed : Text.trimEnd (title.text ++ marker) = title.text ++ marker := by
    rw [hconcat, Text.trimEnd, trimEndBy_concat (by decide)]
  rw [exampleName, if_pos (isLead_iff.2 hends), htrimmed, List.length_append, Nat.add_sub_cancel,
    List.take_left' rfl]
  exact title.trimEnd_text

end Title

/-! ## Lines of parts -/

theorem isInLine_ticks {k : Nat} {c : CodePoint} (h : c ∈ ticks k) : c.isLineFeed = false := by
  rw [List.eq_of_mem_replicate h]
  rfl

theorem splitBy_code (f : Fragment) :
    (Part.code f).text.splitBy CodePoint.isLineFeed =
      (ticks f.marks ++ f.info) :: (f.code.splitBy CodePoint.isLineFeed ++ [ticks f.marks]) := by
  have hopen : ∀ c ∈ ticks f.marks ++ f.info, c.isLineFeed = false := by
    intro c hc
    rcases List.mem_append.1 hc with hc | hc
    · exact isInLine_ticks hc
    · exact f.isInLine_info c hc
  rw [Part.text, splitBy_append hopen rfl, splitBy_append_lineFeed,
    splitBy_of_forall_not fun c hc => isInLine_ticks hc]

theorem Part.readsAs (p : Part) :
    ReadsAs ((p.text.splitBy CodePoint.isLineFeed).map (Line.ofText · true)) p.block := by
  cases p with
  | heading title =>
    have hline : ∀ c ∈ ("## " ++ (title.text ++ marker) : Text), c.isLineFeed = false := by
      simp only [List.mem_append]
      rintro c (hc | hc | hc)
      · revert c
        decide
      · exact title.isInLine_text c hc
      · revert c
        decide
    have htrim := title.trim_append_marker
    have hconcat : title.text ++ marker = title.text ++ [.scalar ':'] ++ [.scalar ':'] := by
      simp [marker_eq]
    rw [Part.text, splitBy_of_forall_not hline, Part.block]
    rw [hconcat] at htrim ⊢
    exact readsAs_heading (by decide) (by decide) htrim true
  | lead l =>
    have hread := readsAs_paragraph l.isParagraph_text
    rw [contents_zero, List.map_map] at hread
    have hlines : Line.text ∘ (Line.ofText · true) = id := rfl
    rwa [hlines, List.map_id, join_splitBy] at hread
  | code f =>
    rw [splitBy_code, List.map_cons, List.map_append]
    exact readsAs_fence f.three_le_marks f.isTick_info f.isTick_code true

/-! ## Lines of a text -/

theorem linesOf_append (texts : List Text) {more : List Text} (hmore : more ≠ []) :
    linesOf (texts ++ more) = texts.map (Line.ofText · true) ++ linesOf more := by
  induction texts with
  | nil => rfl
  | cons text texts ih =>
    have hrest : texts ++ more ≠ [] := List.append_ne_nil_of_right_ne_nil texts hmore
    rw [List.cons_append, linesOf, ih, List.map_cons, List.cons_append]
    exact hrest

/-- The last line of a text, with any number of line feeds behind it. -/
theorem exists_linesOf_replicate {text : Text} (h : text.all isSpacing = false) (k : Nat) :
    ∃ isEnded ends, linesOf (text :: List.replicate k []) = .ofText text isEnded :: ends ∧
      ∀ l ∈ ends, l.isEmpty = true := by
  have hends : ∀ k, linesOf (List.replicate (k + 1) []) = List.replicate k (.ofText [] true) := by
    intro k
    induction k with
    | zero => rfl
    | succ k ih =>
      rw [List.replicate_succ, linesOf, ih]
      · rfl
      · simp
  cases k with
  | zero => exact ⟨false, [], by simp [linesOf, h], nofun⟩
  | succ k =>
    refine ⟨true, List.replicate k (.ofText [] true), ?_, ?_⟩
    · rw [linesOf, hends]
      simp
    · intro l hl
      rw [List.eq_of_mem_replicate hl]
      rfl

/-- Parts are read one after the other, if the last one is code. -/
theorem readsAllAs_parts (front : List Part) (f : Fragment) (k : Nat) :
    ReadsAllAs
      (linesOf (splitBy CodePoint.isLineFeed
        (join "\n\n" ((front ++ [Part.code f]).map Part.text) ++ List.replicate k (.scalar '\n'))))
      ((front ++ [Part.code f]).map Part.block) := by
  rw [splitBy_replicate_lineFeed]
  induction front with
  | nil =>
    have hticks : (ticks f.marks).all isSpacing = false := by
      obtain ⟨n, hn⟩ := Nat.exists_eq_add_of_le' f.three_le_marks
      rw [hn]
      rfl
    obtain ⟨isEnded, ends, hlines, hends⟩ := exists_linesOf_replicate hticks k
    have hread := readsAs_fence f.three_le_marks f.isTick_info f.isTick_code isEnded
    have hlast := ReadsAllAs.last hread hends
    have htext : join "\n\n" (([] ++ [Part.code f]).map Part.text) = (Part.code f).text := rfl
    have hblock : ([] ++ [Part.code f]).map Part.block = [.code (f.code ++ [.scalar '\n'])] := rfl
    rw [htext, hblock, splitBy_code, List.cons_append, List.append_assoc, List.singleton_append,
      ← List.cons_append, linesOf_append _ (by simp), hlines]
    simpa using hlast
  | cons p front ih =>
    obtain ⟨next, rest, hrest⟩ : ∃ next rest, (front ++ [Part.code f]).map Part.text = next :: rest :=
      List.exists_cons_of_ne_nil (by simp)
    have hne := splitBy_ne_nil (p := CodePoint.isLineFeed) (join "\n\n" (next :: rest))
    rw [List.cons_append, List.map_cons, List.map_cons, hrest, splitBy_join_lineFeeds]
    rw [hrest] at ih
    rw [List.append_assoc, linesOf_append _ (by simp), List.cons_append, linesOf]
    · exact .more p.readsAs rfl ih
    · simp [hne]

/-! ## Blocks of a text -/

theorem normalize_of_isKept {t : Text} (h : ∀ c ∈ t, isKept c = true) : normalize t = t := by
  have hreturn : .scalar '\r' ∉ t := fun hmem => absurd (h _ hmem) (by decide)
  have hvisible : ∀ c ∈ t, visible c = c := by
    intro c hc
    have hkept := h c hc
    rw [isKept, Bool.and_eq_true, bne_iff_ne, bne_iff_ne] at hkept
    rw [visible, if_neg (by simpa using hkept.2)]
  rw [normalize_of_not_mem hreturn, List.map_congr_left hvisible, List.map_id']

theorem isKept_text (p : Part) : ∀ c ∈ p.text, isKept c = true := by
  intro c hc
  cases p with
  | heading title =>
    simp only [Part.text, List.mem_append] at hc
    rcases hc with hc | hc | hc
    · revert c
      decide
    · exact title.isKept_text c hc
    · revert c
      decide
  | lead l => exact l.isKept_text c hc
  | code f =>
    have hticks : ∀ c ∈ ticks f.marks, isKept c = true := fun c hc => by
      rw [List.eq_of_mem_replicate hc]
      rfl
    simp only [Part.text, List.mem_append, List.mem_cons] at hc
    rcases hc with (hc | hc) | rfl | hc | rfl | hc
    · exact hticks c hc
    · exact f.isKept_info c hc
    · rfl
    · exact f.isKept_code c hc
    · rfl
    · exact hticks c hc

theorem isKept_join {texts : List Text} (h : ∀ text ∈ texts, ∀ c ∈ text, isKept c = true) :
    ∀ c ∈ join "\n\n" texts, isKept c = true := by
  induction texts with
  | nil => nofun
  | cons text texts ih =>
    have hrest := ih fun t ht => h t (List.mem_cons_of_mem text ht)
    cases texts with
    | nil => exact h text List.mem_cons_self
    | cons next texts =>
      intro c hc
      rw [join_lineFeeds_cons] at hc
      simp only [List.mem_append, List.mem_cons, List.nil_append] at hc
      rcases hc with hc | rfl | rfl | hc
      · exact h text List.mem_cons_self c hc
      · rfl
      · rfl
      · exact hrest c hc

namespace Chapter

theorem exists_parts_eq_concat (c : Chapter) : ∃ front f, c.parts = front ++ [.code f] := by
  obtain ⟨title, first, more⟩ := c
  rcases List.eq_nil_or_concat more with rfl | ⟨more, ⟨l, f⟩, rfl⟩
  · exact ⟨[.heading title], first, rfl⟩
  · refine ⟨.heading title :: .code first ::
      (more.flatMap (fun (l, f) => [Part.lead l, .code f]) ++ [.lead l]), f, ?_⟩
    simp [parts]

end Chapter

/-- A text of chapters has the blocks of their parts, whatever line feeds end it. -/
theorem blocks_render (closed : List Chapter) (last : Chapter) (k : Nat) :
    blocks (render (closed ++ [last]) ++ List.replicate k (.scalar '\n')) =
      ((closed ++ [last]).flatMap Chapter.parts).map Part.block := by
  obtain ⟨front, f, hlast⟩ := last.exists_parts_eq_concat
  have hparts : (closed ++ [last]).flatMap Chapter.parts =
      closed.flatMap Chapter.parts ++ front ++ [.code f] := by
    rw [List.flatMap_append, List.flatMap_singleton, hlast, List.append_assoc]
  have hkept : ∀ c ∈ render (closed ++ [last]) ++ List.replicate k (.scalar '\n'),
      isKept c = true := by
    intro c hc
    rcases List.mem_append.1 hc with hc | hc
    · refine isKept_join (fun text htext => ?_) c hc
      obtain ⟨p, -, rfl⟩ := List.mem_map.1 htext
      exact isKept_text p
    · rw [List.eq_of_mem_replicate hc]
      rfl
  have hread := readsAllAs_parts (closed.flatMap Chapter.parts ++ front) f k
  rw [← hparts, ← render] at hread
  rw [blocks, documentLines, normalize_of_isKept hkept]
  exact hread.blocksOf (Nat.le_succ_of_le hread.length_le)

/-! ## Examples of chapters -/

theorem fragment?_code {before : Block} (h : before.leads = true) (f : Fragment) :
    (⟨some before, (Part.code f).block⟩ : Placed).fragment? = some f.code := by
  have htrim : Text.trimEnd (f.code ++ [.scalar '\n']) = f.code := by
    rw [Text.trimEnd, trimEndBy_append_of_all _ rfl]
    exact f.trimEnd_code
  have hne : f.code.isEmpty = false := by simpa using f.code_ne_nil
  simp [Placed.fragment?, Placed.isLed, Part.block, htrim, hne, h]

theorem leads_heading (title : Title) : (Block.heading (title.text ++ marker)).leads = true :=
  isLead_iff.2 ⟨title.text, [], by rw [List.append_nil], rfl⟩

theorem leads_lead (l : Lead) : (Part.lead l).block.leads = true :=
  isLead_trim l.isLead_text

/-- The section that a chapter makes. -/
def Chapter.section (c : Chapter) : Section :=
  ⟨some (c.title.text ++ marker), c.codes⟩

/-- Further code goes to the section that is open. -/
theorem sectionsFrom_more (more : List (Lead × Fragment)) (heading : Option Text)
    (code : List Text) (before : Option Block) (rest : List Block) :
    ∃ before', sectionsFrom heading code
        (placed before (((more.flatMap fun (l, f) => [Part.lead l, .code f]).map Part.block) ++ rest)) =
      sectionsFrom heading (code ++ more.map fun (_, f) => f.code) (placed before' rest) := by
  induction more generalizing code before with
  | nil => exact ⟨before, by simp⟩
  | cons item more ih =>
    obtain ⟨l, f⟩ := item
    obtain ⟨before', hmore⟩ := ih (code ++ [f.code]) (some (Part.code f).block)
    refine ⟨before', ?_⟩
    have hlead : (⟨before, (Part.lead l).block⟩ : Placed).staysInSection = true := rfl
    have hnone : (⟨before, (Part.lead l).block⟩ : Placed).fragment? = none := rfl
    have hcode : (⟨some (Part.lead l).block, (Part.code f).block⟩ : Placed).staysInSection = true :=
      rfl
    simp only [List.flatMap_cons, List.cons_append, List.nil_append, List.map_cons, placed]
    rw [sectionsFrom_cons hlead, hnone, sectionsFrom_cons hcode, fragment?_code (leads_lead l)]
    simpa using hmore

/-- Chapters make one section each. -/
theorem sectionsFrom_chapters (chapters : List Chapter) (heading : Option Text) (code : List Text)
    (before : Option Block) :
    sectionsFrom heading code (placed before ((chapters.flatMap Chapter.parts).map Part.block)) =
      ⟨heading, code⟩ :: chapters.map Chapter.section := by
  induction chapters generalizing heading code before with
  | nil => simp [placed, sectionsFrom, fragmentsToHeading, headedSections]
  | cons c chapters ih =>
    obtain ⟨before', hmore⟩ := sectionsFrom_more c.more (some (c.title.text ++ marker)) [c.first.code]
      (some (Part.code c.first).block) ((chapters.flatMap Chapter.parts).map Part.block)
    have hparts : ((c :: chapters).flatMap Chapter.parts).map Part.block =
        .heading (c.title.text ++ marker) :: (Part.code c.first).block ::
          (((c.more.flatMap fun (l, f) => [Part.lead l, .code f]).map Part.block) ++
            (chapters.flatMap Chapter.parts).map Part.block) := by
      simp [Chapter.parts, Part.block]
    have hcode : (⟨some (.heading (c.title.text ++ marker)), (Part.code c.first).block⟩ :
        Placed).staysInSection = true := rfl
    rw [hparts, placed, sectionsFrom_heading, placed, sectionsFrom_cons hcode,
      fragment?_code (leads_heading c.title), Option.toList_some, List.nil_append, hmore, ih]
    rfl

theorem example?_section (c : Chapter) (join : List Text → Text) :
    c.section.example? join = some ⟨some c.title.text, join c.codes, true⟩ := by
  have hfound : c.section.example? join =
      some (.found (some (c.title.text ++ marker)) (join c.codes)) := rfl
  rw [hfound, Example.found, c.title.exampleName_append_marker]

/-- Each chapter yields one example: its name is the title, and its source is the code as it was,
joined with semicolons in the last chapter and with empty lines in the others. -/
theorem examples_render (closed : List Chapter) (last : Chapter) (k : Nat) :
    examples (render (closed ++ [last]) ++ List.replicate k (.scalar '\n')) =
      closed.map (fun c => ⟨some c.title.text, joinBlocks c.codes, true⟩) ++
        [⟨some last.title.text, joinStatements last.codes, true⟩] := by
  have hsections : ∀ ps, sections ps = sectionsFrom none [] ps := fun _ => rfl
  have hclosed : closed.filterMap (fun c => c.section.example? joinBlocks) =
      closed.map fun c => ⟨some c.title.text, joinBlocks c.codes, true⟩ := by
    simp only [example?_section, List.filterMap_eq_map']
  rw [examples, blocks_render, Example.ofBlocks_eq_examplesOf, hsections, sectionsFrom_chapters,
    List.map_append, List.map_singleton, ← List.cons_append, examplesOf_concat, example?_section,
    List.filterMap_cons_none rfl, List.filterMap_map]
  exact congrArg (· ++ _) hclosed

/-- A chapter in which code looks like blocks of its own. -/
def countingChapter : Chapter where
  title := ⟨"Count 3 items", by decide, by decide, by decide⟩
  first := {
    code := "n = [\n    1,\n\n]\n# More::;"
    code_ne_nil := by decide
    trimEnd_code := by decide
    isTick_code := by decide
    isKept_code := by decide }
  more := [(⟨"Then count\nthem:::", by decide +kernel, by decide, by decide⟩, {
    code := "~~~\n## len(n)"
    marks := 4
    info := " python"
    code_ne_nil := by decide
    trimEnd_code := by decide
    isTick_code := by decide
    isKept_code := by decide })]

example : examples (render [countingChapter]) =
    [⟨some "Count 3 items", "n = [\n    1,\n\n]\n# More::;\n~~~\n## len(n)", true⟩] := by
  decide +kernel

end Documentation

end AnnotatedMarkdown
