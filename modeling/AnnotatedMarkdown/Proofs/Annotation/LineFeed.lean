import AnnotatedMarkdown.Proofs.Annotation.Line
import AnnotatedMarkdown.Text.Utf8

/-!
# Lines of files

The text of a file is read with a line feed for each of its line breaks, where a line feed and a
carriage return in this order are two of them.  They are one in the cut of a text into lines.

* `Text.splitLines_withLineFeeds_reversed` and the lemmas around it follow both readings through
  the four styles of line breaks.
* `Text.length_splitLines_le` says that no line is lost when a file is read.
* `Text.splitLines_withLineFeeds_iff` says for which texts both readings find the same lines.
-/

namespace AnnotatedMarkdown.Text

/-- Whether a text has a line feed and a carriage return in this order that are read as two
line breaks in a file: no line feed follows that the carriage return would go with. -/
def hasLoneReversedBreak : Text → Bool
  | [] => false
  | .scalar '\r' :: .scalar '\n' :: t => hasLoneReversedBreak t
  | .scalar '\n' :: .scalar '\r' :: t => t.head? != some (.scalar '\n') || hasLoneReversedBreak t
  | _ :: t => hasLoneReversedBreak t

/-! ## Line breaks -/

theorem withLineFeeds_cons_of_ne {c : CodePoint} (hc : c ≠ .scalar '\r') (t : Text) :
    withLineFeeds (c :: t) = c :: withLineFeeds t := by
  rw [withLineFeeds] <;> simp_all

theorem head?_ne_of_forall_ne_cons {c : CodePoint} {t : Text} (h : ∀ rest, t = c :: rest → False) :
    t.head? ≠ some c := by
  intro hhead
  obtain ⟨rest, rfl⟩ := List.head?_eq_some_iff.1 hhead
  exact h rest rfl

theorem withLineFeeds_return_of_ne {t : Text} (ht : t.head? ≠ some (.scalar '\n')) :
    withLineFeeds (.scalar '\r' :: t) = .scalar '\n' :: withLineFeeds t := by
  rw [withLineFeeds]
  rintro rest rfl
  exact ht rfl

theorem head?_withLineFeeds_ne (t : Text) : (withLineFeeds t).head? ≠ some (.scalar '\r') := by
  fun_cases withLineFeeds t with
  | case1 => simp
  | case2 | case3 => simp
  | case4 c t hpair hreturn =>
    intro hhead
    exact hreturn (Option.some.inj hhead)

/-- A line feed in front of the text of a file ends a line. -/
theorem splitLines_lineFeed_withLineFeeds (t : Text) :
    splitLines (.scalar '\n' :: withLineFeeds t) = [] :: splitLines (withLineFeeds t) :=
  splitLines_lineFeed (head?_withLineFeeds_ne t)

/-- A line feed and a carriage return are two line breaks, unless a line feed follows that the
carriage return goes with. -/
theorem splitLines_withLineFeeds_reversed (t : Text) :
    splitLines (withLineFeeds (.scalar '\n' :: .scalar '\r' :: t)) =
      if t.head? = some (.scalar '\n') then [] :: splitLines (withLineFeeds t)
      else [] :: [] :: splitLines (withLineFeeds t) := by
  rw [withLineFeeds_cons_of_ne (by simp)]
  split
  · rename_i hhead
    obtain ⟨rest, rfl⟩ := List.head?_eq_some_iff.1 hhead
    have hpair : withLineFeeds (.scalar '\r' :: .scalar '\n' :: rest) =
        withLineFeeds (.scalar '\n' :: rest) := by
      have hfeed := withLineFeeds_cons_of_ne (c := .scalar '\n') (by simp) rest
      rw [withLineFeeds, hfeed]
    rw [hpair]
    exact splitLines_lineFeed_withLineFeeds _
  · rename_i hhead
    have hreturn := withLineFeeds_return_of_ne hhead
    have hbreak := splitLines_lineFeed_withLineFeeds (.scalar '\r' :: t)
    rw [hbreak, hreturn, splitLines_lineFeed_withLineFeeds]

theorem splitLines_withLineFeeds_lineFeed {t : Text} :
    splitLines (withLineFeeds (.scalar '\n' :: t)) = [] :: splitLines (withLineFeeds t) := by
  rw [withLineFeeds_cons_of_ne (by simp)]
  exact splitLines_lineFeed_withLineFeeds t

theorem splitLines_withLineFeeds_pair {t : Text} :
    splitLines (withLineFeeds (.scalar '\r' :: .scalar '\n' :: t)) =
      [] :: splitLines (withLineFeeds t) := by
  rw [withLineFeeds]
  exact splitLines_lineFeed_withLineFeeds t

theorem splitLines_withLineFeeds_return {t : Text} (ht : t.head? ≠ some (.scalar '\n')) :
    splitLines (withLineFeeds (.scalar '\r' :: t)) = [] :: splitLines (withLineFeeds t) := by
  rw [withLineFeeds_return_of_ne ht]
  exact splitLines_lineFeed_withLineFeeds t

theorem splitLines_withLineFeeds_cons {c : CodePoint} (hc : c.isBreak = false) (t : Text) :
    splitLines (withLineFeeds (c :: t)) = consToFirst c (splitLines (withLineFeeds t)) := by
  rw [withLineFeeds_cons_of_ne (CodePoint.isBreak_eq_false_iff.1 hc).1, splitLines_cons _ hc]

/-! ## Both readings -/

theorem length_consToFirst {lines : List Text} (h : lines ≠ []) (c : CodePoint) :
    (consToFirst c lines).length = lines.length := by
  cases lines with
  | nil => exact absurd rfl h
  | cons line lines => rfl

theorem consToFirst_inj {c : CodePoint} {lines lines' : List Text} (h : lines ≠ [])
    (h' : lines' ≠ []) : consToFirst c lines = consToFirst c lines' ↔ lines = lines' := by
  cases lines with
  | nil => exact absurd rfl h
  | cons line lines =>
    cases lines' with
    | nil => exact absurd rfl h'
    | cons line' lines' => simp [consToFirst]

/-- No line of a text is lost when it is read from a file. -/
theorem length_splitLines_le (t : Text) :
    (splitLines t).length ≤ (splitLines (withLineFeeds t)).length := by
  induction t using splitLines.induct with
  | case1 => exact Nat.le_refl _
  | case2 t ih =>
    rw [splitLines_withLineFeeds_pair, splitLines]
    exact Nat.succ_le_succ ih
  | case3 t ih =>
    rw [splitLines_withLineFeeds_reversed, splitLines]
    split
    · exact Nat.succ_le_succ ih
    · exact Nat.le_succ_of_le (Nat.succ_le_succ ih)
  | case4 t hpair ih =>
    have hhead := head?_ne_of_forall_ne_cons hpair
    rw [splitLines_withLineFeeds_return hhead, splitLines]
    · exact Nat.succ_le_succ ih
    · exact hpair
  | case5 t hreversed ih =>
    rw [splitLines_withLineFeeds_lineFeed, splitLines]
    · exact Nat.succ_le_succ ih
    · exact hreversed
  | case6 c t _ _ hreturn hfeed ih =>
    have hc : c.isBreak = false := CodePoint.isBreak_eq_false_iff.2 ⟨hreturn, hfeed⟩
    rw [splitLines_withLineFeeds_cons hc, splitLines_cons t hc,
      length_consToFirst (splitLines_ne_nil _), length_consToFirst (splitLines_ne_nil _)]
    exact ih

/-- A text is cut into the same lines when it is read from a file, exactly if each line feed
with a carriage return after it is also followed by a line feed. -/
theorem splitLines_withLineFeeds_iff (t : Text) :
    splitLines (withLineFeeds t) = splitLines t ↔ hasLoneReversedBreak t = false := by
  induction t using splitLines.induct with
  | case1 => simp [withLineFeeds, hasLoneReversedBreak]
  | case2 t ih =>
    rw [splitLines_withLineFeeds_pair, splitLines, hasLoneReversedBreak, List.cons.injEq]
    simp [ih]
  | case3 t ih =>
    rw [splitLines_withLineFeeds_reversed, splitLines, hasLoneReversedBreak]
    by_cases hhead : t.head? = some (.scalar '\n')
    · simp [hhead, ih]
    · -- The file has a line more than the text.
      have hlength := length_splitLines_le t
      have hne : [] :: [] :: splitLines (withLineFeeds t) ≠ [] :: splitLines t := by
        intro heq
        have := congrArg List.length heq
        simp only [List.length_cons] at this
        omega
      simp [hhead, hne]
  | case4 t hpair ih =>
    have hhead := head?_ne_of_forall_ne_cons hpair
    rw [splitLines_withLineFeeds_return hhead, splitLines, hasLoneReversedBreak]
    · simp [ih]
    · simpa using hpair
    · simp
    · exact hpair
  | case5 t hreversed ih =>
    rw [splitLines_withLineFeeds_lineFeed, splitLines, hasLoneReversedBreak]
    · simp [ih]
    · simp
    · simpa using hreversed
    · exact hreversed
  | case6 c t _ _ hreturn hfeed ih =>
    have hc : c.isBreak = false := CodePoint.isBreak_eq_false_iff.2 ⟨hreturn, hfeed⟩
    rw [splitLines_withLineFeeds_cons hc, splitLines_cons t hc,
      consToFirst_inj (splitLines_ne_nil _) (splitLines_ne_nil _), ih, hasLoneReversedBreak]
    · simp_all
    · simp_all

end AnnotatedMarkdown.Text
