import AnnotatedMarkdown.Markdown.Block
import AnnotatedMarkdown.Proofs.Documentation.Rewriting
import AnnotatedMarkdown.Proofs.Markdown.Line

/-!
# Blocks without markers

Inference asks the text of a heading or a paragraph for a marker, and the rewriting of a
documentation text takes markers off its lines.  This module compares the two.

* `Example.ofBlocks_eq_nil` shows that there is no example without a block that leads to it.
* `isLead_heading` and `isLead_contents` show that a heading or a paragraph of lines without
  markers leads to none.
* `examples_rewrite` joins this with the rewriting of lines: where only spaces and tabs are behind
  the marker of a line, and no heading is closed behind one, a rewritten text has no examples.
-/

namespace AnnotatedMarkdown

open Documentation

namespace Documentation

/-! ## Scanning -/

/-- Whether a block leads to an example. -/
def Block.leads : Block → Bool
  | .heading text => isLead text
  | .paragraph text => isLead text
  | _ => false

/-- The state of a scan that has found nothing and expects nothing. -/
structure Scan.IsIdle (s : Scan) : Prop where
  examples : s.examples = []
  code : s.code = []
  pending : s.pending = false

theorem Scan.isIdle_start : Scan.start.IsIdle :=
  ⟨rfl, rfl, rfl⟩

theorem Scan.IsIdle.step {s : Scan} (h : s.IsIdle) {block : Block} (hblock : block.leads = false) :
    (s.step block).IsIdle := by
  obtain ⟨examples, code, heading, pending⟩ := s
  obtain ⟨rfl, rfl, rfl⟩ := h
  cases block with
  | heading text => exact ⟨rfl, rfl, hblock⟩
  | paragraph text => exact ⟨rfl, rfl, hblock⟩
  | code text => exact ⟨rfl, rfl, rfl⟩
  | other kind => exact ⟨rfl, rfl, rfl⟩

/-- Blocks that lead to no example have none. -/
theorem Example.ofBlocks_eq_nil {blocks : List Block} (h : ∀ block ∈ blocks, block.leads = false) :
    Example.ofBlocks blocks = [] := by
  have hidle : ∀ {s : Scan}, s.IsIdle → (blocks.foldl Scan.step s).IsIdle := by
    induction blocks with
    | nil => exact fun hs => hs
    | cons block blocks ih =>
      intro s hs
      exact ih (fun b hb => h b (List.mem_cons_of_mem block hb)) (hs.step (h block List.mem_cons_self))
  have hend := hidle Scan.isIdle_start
  rw [Example.ofBlocks, Scan.close, hend.code, hend.examples]
  rfl

end Documentation

namespace Markdown

/-! ## Headings -/

theorem isBlank_of_isGap {c : CodePoint} (h : isGap c = true) : c.isBlank = true := by
  rcases Bool.or_eq_true_iff.1 h with h | h
  · rw [beq_iff_eq.1 h]
    decide
  · rw [beq_iff_eq.1 h]
    decide

/-- What is left of a heading after its marks leads to no example with its spacing, nor
without the marks that close it. -/
theorem isLead_heading_content {before t : Text} (h : IsMarkerFree (before ++ t)) :
    isLead (Text.trim (t.trimEndBy isGap)) = false ∧
      (((t.trimEndBy isGap).trimEndBy isHeadingMark).getLast?.any isGap = true →
        isLead (Text.trim ((t.trimEndBy isGap).trimEndBy isHeadingMark)) = false) := by
  refine ⟨?_, fun hlast => ?_⟩
  · rw [Bool.eq_false_iff]
    intro hlead
    have hmarker := isLead_iff.1 (isLead_of_isLead_trim hlead)
    obtain ⟨spacing, hspacing, hall⟩ := Text.exists_append_trimEndBy isGap t
    have hblank : spacing.all CodePoint.isBlank = true := by
      rw [List.all_eq_true] at hall ⊢
      exact fun c hc => isBlank_of_isGap (hall c hc)
    have hline : isLead (before ++ t) = true := by
      rw [isLead_iff, hspacing]
      exact (hmarker.append_right hblank).append_left before
    rw [h.isLead] at hline
    cases hline
  · rw [Bool.eq_false_iff]
    intro hlead
    have hmarker := isLead_iff.1 (isLead_of_isLead_trim hlead)
    have hcut : (t.trimEndBy isGap).trimEndBy isHeadingMark ≠ [] := by
      intro hnil
      rw [hnil] at hlast
      cases hlast
    have htrimmed : t.trimEndBy isGap ≠ [] := by
      intro hnil
      rw [hnil] at hcut
      exact hcut rfl
    have hcloses : closesAfterMarker (before ++ t) = true := by
      have hsome := List.getLast?_eq_some_getLast hcut
      rw [closesAfterMarker, Text.trimEndBy_append_of_ne_nil before htrimmed,
        Text.trimEndBy_append_of_ne_nil before hcut, List.getLast?_append, hsome, Option.some_or,
        ← hsome, hlast, Bool.true_and, isLead_iff]
      exact hmarker.append_left before
    rw [h.closings] at hcloses
    cases hcloses

/-- The heading on a line without markers leads to no example. -/
theorem isLead_heading {r : Region} {l : Line} {text : Text} (h : heading? r l = some text)
    (hl : IsMarkerFree l.text) : isLead text = false := by
  obtain ⟨before, hbefore⟩ : ∃ before, l.text =
      before ++ l.content.drop (l.content.takeWhile (· == .scalar '#')).length := by
    rw [Line.content, List.drop_drop]
    exact ⟨_, (List.take_append_drop _ _).symm⟩
  rw [hbefore] at hl
  obtain ⟨hopen, hclosed⟩ := isLead_heading_content hl
  unfold heading? at h
  dsimp only at h
  split at h
  · cases h
  · cases h
    split
    · next hlast => exact hclosed hlast
    · exact hopen

/-! ## Paragraphs -/

theorem outdent_zero (t : Text) : outdent 0 0 t = t := by
  cases t <;> simp [outdent]

theorem contents_zero (lines : List Line) :
    contents 0 false lines = Text.join "\n" (lines.map Line.text) := by
  induction lines with
  | nil => rfl
  | cons l lines ih =>
    cases lines with
    | nil => simp [contents, outdent_zero, Text.join]
    | cons next lines =>
      rw [contents, ih, outdent_zero]
      · exact (join_lineFeed_cons l.text next.text (lines.map Line.text)).symm
      · simp

/-- Lines without markers make a paragraph that leads to no example. -/
theorem isLead_contents {lines : List Line} (h : ∀ l ∈ lines, IsMarkerFree l.text) :
    isLead (Text.trim (contents 0 false lines)) = false := by
  rw [Bool.eq_false_iff]
  intro hlead
  have hmarker := isLead_iff.1 (isLead_of_isLead_trim hlead)
  rw [contents_zero] at hmarker
  obtain ⟨line, hline, hends⟩ := exists_endsInMarker_of_join hmarker
  obtain ⟨l, hl, rfl⟩ := List.mem_map.1 hline
  have hfree := (h l hl).isLead
  rw [isLead_iff.2 hends] at hfree
  cases hfree

/-! ## Blocks -/

/-- A heading is on the first of its lines. -/
theorem heading?_of_shapeOf {quoteWalker listWalker : Walker} {r : Region} {s : Span} {l : Line}
    {ls : List Line} {text : Text}
    (h : (shapeOf quoteWalker listWalker r s l ls).1 = .heading text) : heading? r l = some text := by
  revert h
  fun_cases shapeOf quoteWalker listWalker r s l ls with
  | case8 _ _ _ _ _ _ _ _ hheading =>
    intro h
    cases h
    exact hheading
  | _ => nofun

theorem leads_blockOf {shape : Shape} {lines : List Line} {block : Block}
    (hblock : blockOf shape lines = some block) (hlines : ∀ l ∈ lines, IsMarkerFree l.text)
    (hheading : ∀ text, shape = .heading text → isLead text = false) : block.leads = false := by
  cases shape with
  | heading text =>
    cases hblock
    exact hheading text rfl
  | underlined =>
    cases hblock
    exact isLead_contents fun l hl => hlines l (List.dropLast_subset lines hl)
  | paragraph =>
    cases hblock
    exact isLead_contents hlines
  | definition => cases hblock
  | list isOrdered => cases isOrdered <;> cases hblock <;> rfl
  | code | fence | quote | thematicBreak | html =>
    cases hblock
    rfl

/-- No block of lines without markers leads to an example. -/
theorem leads_blocksOf (count : Nat) {lines : List Line} (h : ∀ l ∈ lines, IsMarkerFree l.text) :
    ∀ block ∈ blocksOf count lines, block.leads = false := by
  induction count generalizing lines with
  | zero => simp [blocksOf]
  | succ count ih =>
    rw [blocksOf]
    have hrest : ∀ l ∈ lines.dropWhile Line.isEmpty, IsMarkerFree l.text := fun l hl =>
      h l (List.dropWhile_subset _ hl)
    cases hlines : lines.dropWhile Line.isEmpty with
    | nil => simp
    | cons l ls =>
      rw [hlines] at hrest
      dsimp only
      intro block hblock
      rcases List.mem_append.1 hblock with hblock | hblock
      · refine leads_blockOf (Option.mem_toList.1 hblock)
          (fun k hk => hrest k (List.take_subset _ _ hk)) fun text htext => ?_
        exact isLead_heading (heading?_of_shapeOf htext) (hrest l List.mem_cons_self)
      · exact ih (fun k hk => hrest k (List.drop_subset _ _ hk)) block hblock

/-! ## Rewritten texts -/

theorem examples_of_isMarkerFree {t : Text} (hreturn : .scalar '\r' ∉ t)
    (h : ∀ line ∈ t.splitBy CodePoint.isLineFeed, IsMarkerFree line) : examples t = [] :=
  Example.ofBlocks_eq_nil (leads_blocksOf _ (isMarkerFree_documentLines hreturn h))

/-- A rewritten text has no examples, if its lines have only spaces and tabs behind their markers,
and no heading is closed behind one. -/
theorem examples_rewrite {t : Text} (hreturn : .scalar '\r' ∉ t)
    (hmarkers : ∀ line ∈ t.splitBy CodePoint.isLineFeed,
      isLead line = true → marker.isSuffixOf (line.trimEndBy isGap) = true)
    (hclosings : ∀ line ∈ t.splitBy CodePoint.isLineFeed, closesAfterMarker line = false) :
    examples (rewrite t) = [] := by
  have hrewritten : .scalar '\r' ∉ rewrite t := by
    rw [← Text.join_splitBy (rewrite t), splitBy_rewrite]
    intro hmem
    rcases Text.mem_join hmem with hcontra | ⟨line, hline, hc⟩
    · exact absurd hcontra (by decide)
    · obtain ⟨original, horiginal, rfl⟩ := List.mem_map.1 hline
      rcases mem_rewriteLine hc with hc | hcolon
      · exact hreturn (Text.mem_of_mem_splitBy horiginal hc).1
      · exact absurd hcolon (by decide)
  refine examples_of_isMarkerFree hrewritten ?_
  rw [splitBy_rewrite]
  intro line hline
  obtain ⟨original, horiginal, rfl⟩ := List.mem_map.1 hline
  exact isMarkerFree_rewriteLine (hmarkers original horiginal) (hclosings original horiginal)

/-- A documentation text with an example, and a no-break space within a line. -/
def notedCall : Text :=
  "Two\u00a0notes::\n\n    f()\n"

theorem examples_rewrite_notedCall :
    .scalar '\r' ∉ notedCall ∧
      (∀ line ∈ notedCall.splitBy CodePoint.isLineFeed,
        isLead line = true → marker.isSuffixOf (line.trimEndBy isGap) = true) ∧
      (∀ line ∈ notedCall.splitBy CodePoint.isLineFeed, closesAfterMarker line = false) ∧
      examples notedCall = [⟨some [], "f()", true⟩] ∧ examples (rewrite notedCall) = [] := by
  have hreturn : .scalar '\r' ∉ notedCall := by decide
  have hmarkers : ∀ line ∈ notedCall.splitBy CodePoint.isLineFeed,
      isLead line = true → marker.isSuffixOf (line.trimEndBy isGap) = true := by
    decide
  have hclosings : ∀ line ∈ notedCall.splitBy CodePoint.isLineFeed,
      closesAfterMarker line = false := by
    decide
  exact ⟨hreturn, hmarkers, hclosings, by decide +kernel,
    examples_rewrite hreturn hmarkers hclosings⟩

/-- The marker of a closed heading stays. -/
theorem examples_rewrite_closedHeading :
    examples (rewrite "## Example:: ##\n\n    x = 1\n") = [⟨some "Example", "x = 1", true⟩] := by
  decide +kernel

end Markdown

end AnnotatedMarkdown
