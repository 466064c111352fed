import AnnotatedMarkdown.Proofs.Markdown.Block

/-!
# Sections of a documentation text

The examples of a documentation text are found by a scan that takes its blocks one after the
other.  This module says which they are without the scan: a code block is looked at together
with the block in front of it, and the blocks are cut at the headings.

* `placed` puts the block in front next to each block, and `Placed.fragment?` is the code that a
  block gives to an example there.
* `sections` are the fragments in front of all headings, and those under each heading.
  `flatMap_fragments_sections` says that each fragment is in one of them.
* `sectionsFrom` are the sections of the blocks that a scan has not taken yet, the first of which
  is open.  `Scan.close_foldl` follows the scan through them.
* `examples_eq_sections` reads the examples of a text off its sections.
-/

namespace AnnotatedMarkdown

namespace Documentation

/-! ## Blocks in their places -/

/-- A block, and the block directly in front of it. -/
structure Placed where
  before : Option Block
  block : Block

/-- Blocks in their places, if a given block is in front of the first one. -/
def placed (before : Option Block) : List Block → List Placed
  | [] => []
  | block :: blocks => ⟨before, block⟩ :: placed (some block) blocks

namespace Placed

/-- Whether the block in front leads to an example. -/
def isLed (p : Placed) : Bool :=
  p.before.any Block.leads

/-- The fragment that a block gives to an example: it is led code, and not blank. -/
def fragment? (p : Placed) : Option Text :=
  match p.block with
  | .code text => if p.isLed && !text.trimEnd.isEmpty then some text.trimEnd else none
  | _ => none

/-- The text of a heading. -/
def heading? (p : Placed) : Option Text :=
  match p.block with
  | .heading text => some text
  | _ => none

/-- Whether a block is no heading. -/
def staysInSection (p : Placed) : Bool :=
  p.heading?.isNone

/-- A heading gives no fragment. -/
theorem fragment?_of_heading? {p : Placed} {text : Text} (h : p.heading? = some text) :
    p.fragment? = none := by
  obtain ⟨before, block⟩ := p
  cases block with
  | heading text => rfl
  | paragraph text | code text | other kind => cases h

end Placed

/-! ## Sections -/

/-- The fragments under a heading, or those in front of all headings. -/
structure Section where
  heading : Option Text
  fragments : List Text

/-- The fragments up to the next heading. -/
def fragmentsToHeading (ps : List Placed) : List Text :=
  (ps.takeWhile Placed.staysInSection).filterMap Placed.fragment?

/-- The sections that headings open. -/
def headedSections : List Placed → List Section
  | [] => []
  | p :: ps =>
    match p.heading? with
    | some text => ⟨some text, fragmentsToHeading ps⟩ :: headedSections ps
    | none => headedSections ps

/-- The sections of all blocks: one without a heading, and one for each heading. -/
def sections (ps : List Placed) : List Section :=
  ⟨none, fragmentsToHeading ps⟩ :: headedSections ps

/-- The example of a section, if it has fragments, for a given way to join them. -/
def Section.example? (join : List Text → Text) (s : Section) : Option Example :=
  if s.fragments.isEmpty then none else some (.found s.heading (join s.fragments))

theorem fragmentsToHeading_append (ps : List Placed) :
    fragmentsToHeading ps ++ (ps.dropWhile Placed.staysInSection).filterMap Placed.fragment? =
      ps.filterMap Placed.fragment? := by
  rw [fragmentsToHeading, ← List.filterMap_append, List.takeWhile_append_dropWhile]

theorem flatMap_fragments_headedSections (ps : List Placed) :
    (headedSections ps).flatMap Section.fragments =
      (ps.dropWhile Placed.staysInSection).filterMap Placed.fragment? := by
  induction ps with
  | nil => rfl
  | cons p ps ih =>
    rw [headedSections]
    cases hheading : p.heading? with
    | none =>
      have hstays : p.staysInSection = true := by simp [Placed.staysInSection, hheading]
      rw [List.dropWhile_cons_of_pos hstays]
      exact ih
    | some text =>
      have hstays : ¬ p.staysInSection = true := by simp [Placed.staysInSection, hheading]
      rw [List.dropWhile_cons_of_neg hstays,
        List.filterMap_cons_none (Placed.fragment?_of_heading? hheading), List.flatMap_cons, ih]
      exact fragmentsToHeading_append ps

/-- Each fragment is in one section, and the order is kept. -/
theorem flatMap_fragments_sections (ps : List Placed) :
    (sections ps).flatMap Section.fragments = ps.filterMap Placed.fragment? := by
  rw [sections, List.flatMap_cons, flatMap_fragments_headedSections]
  exact fragmentsToHeading_append ps

/-! ### Names -/

/-- A text is the name of the examples under a heading: the heading up to its marker, if it has
one, without blanks at the end.  In front of all headings there is no name. -/
def IsTitle (name : Text) : Option Text → Prop
  | none => name = []
  | some heading =>
    (∃ body tail, heading = body ++ marker ++ tail ∧ tail.all CodePoint.isBlank = true ∧
      name = Text.trimEnd body) ∨
    ¬ EndsInMarker CodePoint.isBlank heading ∧ name = heading.trimEnd

theorem isTitle_exampleName (heading : Option Text) : IsTitle (exampleName heading) heading := by
  cases heading with
  | none => rfl
  | some heading =>
    rw [exampleName]
    split
    · rename_i hlead
      obtain ⟨body, hbody⟩ := List.isSuffixOf_iff_suffix.1 hlead
      obtain ⟨tail, htail, hall⟩ := Text.exists_append_trimEndBy CodePoint.isBlank heading
      refine Or.inl ⟨body, tail, ?_, hall, ?_⟩
      · rw [hbody]
        exact htail
      · have htrimmed : heading.trimEnd = body ++ marker := hbody.symm
        rw [htrimmed, List.length_append, Nat.add_sub_cancel, List.take_left]
    · rename_i hlead
      exact Or.inr ⟨fun hends => hlead (isLead_iff.2 hends), rfl⟩

/-! ## Open sections -/

/-- The section that is open with a heading and fragments, and the sections after it. -/
def sectionsFrom (heading : Option Text) (code : List Text) (ps : List Placed) : List Section :=
  ⟨heading, code ++ fragmentsToHeading ps⟩ :: headedSections ps

theorem sectionsFrom_heading (heading : Option Text) (code : List Text) (before : Option Block)
    (text : Text) (ps : List Placed) :
    sectionsFrom heading code (⟨before, .heading text⟩ :: ps) =
      ⟨heading, code⟩ :: sectionsFrom (some text) [] ps := by
  simp [sectionsFrom, headedSections, fragmentsToHeading, Placed.heading?, Placed.staysInSection]

theorem sectionsFrom_cons {p : Placed} (h : p.staysInSection = true) (heading : Option Text)
    (code : List Text) (ps : List Placed) :
    sectionsFrom heading code (p :: ps) = sectionsFrom heading (code ++ p.fragment?.toList) ps := by
  have hheading : p.heading? = none := by simpa [Placed.staysInSection] using h
  rw [sectionsFrom, fragmentsToHeading, List.takeWhile_cons_of_pos h, headedSections, hheading,
    sectionsFrom, fragmentsToHeading]
  cases hfragment : p.fragment? with
  | none => rw [List.filterMap_cons_none hfragment, Option.toList_none, List.append_nil]
  | some fragment =>
    rw [List.filterMap_cons_some hfragment, Option.toList_some, List.append_assoc]
    rfl

/-- The examples of sections, of which the last one is joined in its own way. -/
def examplesOf : List Section → List Example
  | [] => []
  | [s] => (s.example? joinStatements).toList
  | s :: t :: sections => (s.example? joinBlocks).toList ++ examplesOf (t :: sections)

theorem examplesOf_cons_sectionsFrom (s : Section) (heading : Option Text) (code : List Text)
    (ps : List Placed) :
    examplesOf (s :: sectionsFrom heading code ps) =
      (s.example? joinBlocks).toList ++ examplesOf (sectionsFrom heading code ps) :=
  rfl

theorem examplesOf_concat (closed : List Section) (last : Section) :
    examplesOf (closed ++ [last]) =
      closed.filterMap (Section.example? joinBlocks) ++ (last.example? joinStatements).toList := by
  induction closed with
  | nil => rfl
  | cons s closed ih =>
    obtain ⟨t, rest, hrest⟩ : ∃ t rest, closed ++ [last] = t :: rest :=
      List.exists_cons_of_ne_nil (by simp)
    have hcons : examplesOf (s :: t :: rest) =
        (s.example? joinBlocks).toList ++ examplesOf (t :: rest) := rfl
    rw [List.cons_append, hrest, hcons, ← hrest, ih, ← List.append_assoc]
    cases hexample : s.example? joinBlocks with
    | none => rw [List.filterMap_cons_none hexample, Option.toList_none, List.nil_append]
    | some e => rw [List.filterMap_cons_some hexample, Option.toList_some, List.singleton_append]

/-! ## The scan -/

namespace Scan

theorem close_eq (s : Scan) (join : List Text → Text) :
    s.close join = s.examples ++ ((⟨s.heading, s.code⟩ : Section).example? join).toList := by
  rw [close, Section.example?]
  split <;> simp

/-- A block that is no heading adds its fragment to the open section. -/
theorem step_of_staysInSection (s : Scan) {before : Option Block} {block : Block}
    (hpending : s.pending = before.any Block.leads)
    (h : (⟨before, block⟩ : Placed).staysInSection = true) :
    s.step block =
      ⟨s.examples, s.code ++ (⟨before, block⟩ : Placed).fragment?.toList, s.heading, block.leads⟩ := by
  cases block with
  | heading text => cases h
  | paragraph text | other kind =>
    rw [Placed.fragment?, Option.toList_none, List.append_nil]
    rfl
  | code text =>
    rw [step, hpending, Placed.fragment?, Placed.isLed]
    dsimp only
    split
    · rfl
    · rw [Option.toList_none, List.append_nil]
      rfl

/-- The scan of the blocks that are left yields their sections, of which the first one is
open.  Its state says of the block in front of them whether it leads to an example. -/
theorem close_foldl (blocks : List Block) (s : Scan) {before : Option Block}
    (hpending : s.pending = before.any Block.leads) :
    (blocks.foldl step s).close joinStatements =
      s.examples ++ examplesOf (sectionsFrom s.heading s.code (placed before blocks)) := by
  induction blocks generalizing s before with
  | nil =>
    rw [List.foldl_nil, close_eq]
    simp [placed, sectionsFrom, fragmentsToHeading, headedSections, examplesOf]
  | cons block blocks ih =>
    have hnext : ∀ t : Scan, t.pending = block.leads →
        t.pending = (some block : Option Block).any Block.leads := fun _ ht => ht
    rw [List.foldl_cons, placed]
    by_cases hstays : (⟨before, block⟩ : Placed).staysInSection = true
    · rw [step_of_staysInSection s hpending hstays, ih _ (hnext _ rfl), sectionsFrom_cons hstays]
    · obtain ⟨text, rfl⟩ : ∃ text, block = .heading text := by
        cases block with
        | heading text => exact ⟨text, rfl⟩
        | paragraph text | code text | other kind => exact absurd rfl hstays
      have hstep : s.step (.heading text) =
          ⟨s.close joinBlocks, [], some text, (Block.heading text).leads⟩ := rfl
      rw [hstep, ih _ (hnext _ rfl), sectionsFrom_heading, examplesOf_cons_sectionsFrom, close_eq,
        List.append_assoc]

end Scan

theorem Example.ofBlocks_eq_examplesOf (blocks : List Block) :
    Example.ofBlocks blocks = examplesOf (sections (placed none blocks)) := by
  have hstart : Scan.start.pending = (none : Option Block).any Block.leads := rfl
  exact Scan.close_foldl blocks .start hstart

end Documentation

namespace Markdown

open Documentation

/-- The examples of a documentation text, read off its sections.  Each section with fragments
has one example, which bears the title of the section; the sections in front of the last
heading are joined with blank lines, and the last one with semicolons.  The fragments of all
sections are the led code blocks of the text that are not blank. -/
theorem examples_eq_sections (documentation : Text) :
    ∃ closed last, sections (placed none (blocks documentation)) = closed ++ [last] ∧
      examples documentation =
        closed.filterMap (Section.example? joinBlocks) ++
          (last.example? joinStatements).toList ∧
      (closed ++ [last]).flatMap Section.fragments =
        (placed none (blocks documentation)).filterMap Placed.fragment? ∧
      ∀ heading, IsTitle (exampleName heading) heading := by
  have hne : sections (placed none (blocks documentation)) ≠ [] := nofun
  obtain ⟨closed, last, hsections⟩ : ∃ closed last,
      sections (placed none (blocks documentation)) = closed ++ [last] :=
    ⟨_, _, (List.dropLast_concat_getLast hne).symm⟩
  have hexamples : examples documentation = examplesOf (closed ++ [last]) := by
    rw [← hsections]
    exact Example.ofBlocks_eq_examplesOf _
  refine ⟨closed, last, hsections, ?_, ?_, isTitle_exampleName⟩
  · rw [hexamples, examplesOf_concat]
  · rw [← hsections, flatMap_fragments_sections]

end Markdown

end AnnotatedMarkdown
