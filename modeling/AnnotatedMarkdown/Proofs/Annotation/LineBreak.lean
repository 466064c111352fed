import AnnotatedMarkdown.Annotation.Record
import AnnotatedMarkdown.Proofs.Annotation.Line

/-!
# Styles of line breaks

The cut of a text into lines knows four styles of line breaks, of which two consist of both
code points and two of one.  A single one is read together with what follows it where both make
a line break of two.

* `LineBreak.isExtendedBy` says when that happens, and `splitLines_lineBreak` that a line break
  ends a line wherever it does not.
* `isExtendedBy_join` says that it never happens in lines that are joined in one style, however
  many of them are empty: the next code point is one of a line, or the same line break again.
* `lines_of_lineBreaks` is the whole law.  The style has no influence on the lines, nor on the
  records that are read from them.
-/

namespace AnnotatedMarkdown

/-- A style of line breaks. -/
inductive LineBreak where
  | returnAndFeed
  | feedAndReturn
  | loneReturn
  | loneFeed
  deriving DecidableEq

namespace LineBreak

/-- The code points of a line break. -/
def text : LineBreak → Text
  | returnAndFeed => "\r\n"
  | feedAndReturn => "\n\r"
  | loneReturn => "\r"
  | loneFeed => "\n"

/-- Whether a line break is read together with the first code point of the text after it. -/
def isExtendedBy : LineBreak → Text → Bool
  | loneReturn, t => t.head? == some (.scalar '\n')
  | loneFeed, t => t.head? == some (.scalar '\r')
  | _, _ => false

end LineBreak

/-- A carriage return ends a line, unless a line feed follows it. -/
theorem splitLines_return {t : Text} (ht : t.head? ≠ some (.scalar '\n')) :
    splitLines (.scalar '\r' :: t) = [] :: splitLines t := by
  rw [splitLines]
  rintro rest rfl
  exact ht rfl

/-- A line break ends a line, unless it is read together with what follows. -/
theorem splitLines_lineBreak {b : LineBreak} {t : Text} (h : b.isExtendedBy t = false) :
    splitLines (b.text ++ t) = [] :: splitLines t := by
  cases b with
  | returnAndFeed | feedAndReturn => simp [LineBreak.text, Text.ofString, Text.ofChars, splitLines]
  | loneReturn =>
    have hhead : t.head? ≠ some (.scalar '\n') := by simpa [LineBreak.isExtendedBy] using h
    exact splitLines_return hhead
  | loneFeed =>
    have hhead : t.head? ≠ some (.scalar '\r') := by simpa [LineBreak.isExtendedBy] using h
    exact splitLines_lineFeed hhead

/-- A code point that is no part of a line break extends none. -/
theorem isExtendedBy_cons_eq_false {c : CodePoint} (hc : c.isBreak = false) (b : LineBreak)
    (t : Text) : b.isExtendedBy (c :: t) = false := by
  obtain ⟨hreturn, hfeed⟩ := CodePoint.isBreak_eq_false_iff.1 hc
  cases b <;> simp [LineBreak.isExtendedBy, hreturn, hfeed]

/-- A line break is not read together with another one in the same style. -/
theorem isExtendedBy_self_append (b : LineBreak) (t : Text) :
    b.isExtendedBy (b.text ++ t) = false := by
  cases b <;> simp [LineBreak.isExtendedBy, LineBreak.text, Text.ofString, Text.ofChars]

/-- No line break is extended by lines that are joined in its style. -/
theorem isExtendedBy_join (b : LineBreak) {lines : List Text}
    (h : ∀ line ∈ lines, line.IsBreakFree) :
    b.isExtendedBy (Text.join b.text lines) = false := by
  have hfirst : ∀ c line, c :: line ∈ lines → c.isBreak = false :=
    fun c line hline => (Text.isBreakFree_cons.1 (h _ hline)).1
  match lines with
  | [] | [[]] => cases b <;> rfl
  | [c :: line] => exact isExtendedBy_cons_eq_false (hfirst c line List.mem_cons_self) b line
  | [] :: second :: rest =>
    -- An empty line in front leaves two line breaks in a row.
    exact isExtendedBy_self_append b _
  | (c :: line) :: second :: rest =>
    exact isExtendedBy_cons_eq_false (hfirst c line List.mem_cons_self) b _

/-- Lines that are joined in one style are cut apart again. -/
theorem splitLines_join_lineBreak (b : LineBreak) {lines : List Text} (hne : lines ≠ [])
    (h : ∀ line ∈ lines, line.IsBreakFree) : splitLines (Text.join b.text lines) = lines := by
  induction lines with
  | nil => exact absurd rfl hne
  | cons line rest ih =>
    have hline : line.IsBreakFree := h line List.mem_cons_self
    have hrest : ∀ l ∈ rest, l.IsBreakFree := fun l hl => h l (List.mem_cons_of_mem line hl)
    cases rest with
    | nil => exact splitLines_of_isBreakFree hline
    | cons second rest =>
      have hcut := splitLines_lineBreak (isExtendedBy_join b hrest)
      rw [ih (by simp) hrest] at hcut
      have hjoin : Text.join b.text (line :: second :: rest) =
          line ++ (b.text ++ Text.join b.text (second :: rest)) :=
        List.append_assoc _ _ _
      rw [hjoin, splitLines_append hline, hcut, foldr_consToFirst, List.append_nil]

/-- The lines of a text, joined with line feeds, have the records of the text. -/
theorem ofText_join_splitLines (t : Text) :
    Record.ofText (Text.join "\n" (splitLines t)) = Record.ofText t := by
  have hfree : ∀ line ∈ splitLines t, line.IsBreakFree := fun _ => isBreakFree_of_mem_splitLines
  unfold Record.ofText
  rw [splitLines_join (splitLines_ne_nil t) hfree]

/-- The style of its line breaks says nothing about a text.  Lines that are joined in any of the
four styles are cut apart again, no line of a text contains a part of a line break, and the
records of a text, or the reason why it has none, are those of its lines joined with line
feeds. -/
theorem lines_of_lineBreaks :
    (∀ (b : LineBreak) (lines : List Text), lines ≠ [] → (∀ line ∈ lines, line.IsBreakFree) →
      splitLines (Text.join b.text lines) = lines) ∧
    (∀ t : Text, ∀ line ∈ splitLines t, line.IsBreakFree) ∧
    ∀ t : Text, Record.ofText t = Record.ofText (Text.join "\n" (splitLines t)) := by
  refine ⟨?_, ?_, ?_⟩
  · intro b lines hne hfree
    exact splitLines_join_lineBreak b hne hfree
  · intro t line hline
    exact isBreakFree_of_mem_splitLines hline
  · intro t
    exact (ofText_join_splitLines t).symm

/-- Lines with empty ones among them and at their end. -/
def gappedLines : List Text :=
  ["@annotate: f", [], [], "---", "Text.", []]

theorem lines_of_lineBreaks_gappedLines :
    gappedLines ≠ [] ∧ (∀ line ∈ gappedLines, line.IsBreakFree) ∧
      splitLines (Text.join LineBreak.feedAndReturn.text gappedLines) = gappedLines ∧
      splitLines (Text.join LineBreak.loneReturn.text gappedLines) = gappedLines := by
  have hne : gappedLines ≠ [] := by decide
  have hfree : ∀ line ∈ gappedLines, line.IsBreakFree := by decide
  exact ⟨hne, hfree, lines_of_lineBreaks.1 .feedAndReturn gappedLines hne hfree,
    lines_of_lineBreaks.1 .loneReturn gappedLines hne hfree⟩

end AnnotatedMarkdown
