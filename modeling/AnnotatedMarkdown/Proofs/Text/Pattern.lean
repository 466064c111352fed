import AnnotatedMarkdown.Proofs.Markdown.Line
import AnnotatedMarkdown.Text.Pattern

/-!
# Patterns that match within lines

A pattern that takes no line feed sees nothing of a text beyond the line on which it starts,
so a text is replaced line by line.

* `match?_append` cuts what is matched at a line feed, and `match?_congr` says what a match
  knows about the code point in front of it.
* `replaceFrom_append` follows the replacement over a line feed.
* `replace_eq_join` is the result: the lines of a text are replaced one by one.
-/

namespace AnnotatedMarkdown.Text

/-! ## Lines -/

/-- Whether an item takes no line feed. -/
def PatternItem.staysInLine : PatternItem → Bool
  | .one p => !p (.scalar '\n')
  | .many p => !p (.scalar '\n')
  | .lineStart => true
  | .lineEnd => true

/-- A pattern that takes no line feed and some other code point. -/
structure IsWithinLine (pattern : Pattern) : Prop where
  staysInLine : ∀ item ∈ pattern, item.staysInLine = true
  match?_nil : ∀ before, match? pattern before [] = none

/-- What an item of a pattern takes in front of a line feed does not depend on what is
behind it. -/
theorem matchMany?_append {p : CodePoint → Bool} (hp : p (.scalar '\n') = false)
    {next : Option CodePoint → Text → Option Text} {t : Text}
    (hnext : ∀ before s,
      next before (s ++ .scalar '\n' :: t) = (next before s).map (· ++ .scalar '\n' :: t))
    (before : Option CodePoint) (s : Text) :
    matchMany? p next before (s ++ .scalar '\n' :: t) =
      (matchMany? p next before s).map (· ++ .scalar '\n' :: t) := by
  induction s generalizing before with
  | nil =>
    have hstop : matchMany? p next before (.scalar '\n' :: t) = next before (.scalar '\n' :: t) := by
      simp [matchMany?, hp]
    rw [List.nil_append, hstop]
    exact hnext before []
  | cons c s ih =>
    have hhere := hnext before (c :: s)
    rw [List.cons_append] at hhere ⊢
    rw [matchMany?, matchMany?]
    by_cases hc : p c = true
    · rw [if_pos hc, if_pos hc, ih, hhere, Option.map_or]
    · rw [if_neg hc, if_neg hc, hhere]

theorem match?_append {pattern : Pattern} (hp : ∀ item ∈ pattern, item.staysInLine = true)
    (before : Option CodePoint) (s t : Text) :
    match? pattern before (s ++ .scalar '\n' :: t) =
      (match? pattern before s).map (· ++ .scalar '\n' :: t) := by
  induction pattern generalizing before s with
  | nil => rfl
  | cons item items ih =>
    have hitem := hp item List.mem_cons_self
    have hitems := ih fun i hi => hp i (List.mem_cons_of_mem item hi)
    cases item with
    | one p =>
      have hfeed : p (.scalar '\n') = false := by simpa [PatternItem.staysInLine] using hitem
      cases s with
      | nil => simp [match?, hfeed]
      | cons c s =>
        rw [List.cons_append, match?, match?]
        by_cases hc : p c = true
        · rw [if_pos hc, if_pos hc, hitems]
        · rw [if_neg hc, if_neg hc, Option.map_none]
    | many p =>
      have hfeed : p (.scalar '\n') = false := by simpa [PatternItem.staysInLine] using hitem
      rw [match?, match?]
      exact matchMany?_append hfeed hitems before s
    | lineStart =>
      rw [match?, match?]
      by_cases hbefore : isLineBound before = true
      · rw [if_pos hbefore, if_pos hbefore, hitems]
      · rw [if_neg hbefore, if_neg hbefore, Option.map_none]
    | lineEnd =>
      have hhead : isLineBound (s ++ .scalar '\n' :: t).head? = isLineBound s.head? := by
        cases s with
        | nil => rfl
        | cons c s => rfl
      rw [match?, match?, hhead]
      by_cases hbound : isLineBound s.head? = true
      · rw [if_pos hbound, if_pos hbound, hitems]
      · rw [if_neg hbound, if_neg hbound, Option.map_none]

/-- A match asks only whether the code point in front of it ends a line. -/
theorem match?_congr {before before' : Option CodePoint}
    (h : isLineBound before = isLineBound before') (pattern : Pattern) (t : Text) :
    match? pattern before t = match? pattern before' t := by
  induction pattern with
  | nil => rfl
  | cons item items ih =>
    cases item with
    | one p => cases t <;> rfl
    | many p =>
      rw [match?, match?]
      cases t with
      | nil => exact ih
      | cons c t => rw [matchMany?, matchMany?, ih]
    | lineStart => rw [match?, match?, h, ih]
    | lineEnd => rw [match?, match?, ih]

/-! ## Replacement -/

variable {pattern : Pattern} {replacement : Text}

theorem replaceFrom_congr {before before' : Option CodePoint}
    (h : isLineBound before = isLineBound before') (skipped : Nat) (t : Text) :
    replaceFrom pattern replacement skipped before t =
      replaceFrom pattern replacement skipped before' t := by
  cases t with
  | nil => rfl
  | cons c t =>
    cases skipped with
    | zero => rw [replaceFrom, replaceFrom, match?_congr h]
    | succ skipped => rfl

/-- All of a text can belong to a match. -/
theorem replaceFrom_length (before : Option CodePoint) (t : Text) :
    replaceFrom pattern replacement t.length before t = [] := by
  induction t generalizing before with
  | nil => rfl
  | cons c t ih => exact ih (some c)

/-- Behind a line feed the replacement starts anew. -/
theorem replaceFrom_append (h : IsWithinLine pattern) (before : Option CodePoint) {skipped : Nat}
    {s : Text} (hskipped : skipped ≤ s.length) (t : Text) :
    replaceFrom pattern replacement skipped before (s ++ .scalar '\n' :: t) =
      replaceFrom pattern replacement skipped before s ++
        .scalar '\n' :: replace pattern replacement t := by
  induction s generalizing before skipped with
  | nil =>
    obtain rfl : skipped = 0 := Nat.le_zero.1 hskipped
    have hnone : match? pattern before (.scalar '\n' :: t) = none := by
      rw [← List.nil_append (CodePoint.scalar '\n' :: t), match?_append h.staysInLine, h.match?_nil,
        Option.map_none]
    have hbound : isLineBound (some (.scalar '\n')) = isLineBound none := rfl
    have hrest : replaceFrom pattern replacement 0 (some (.scalar '\n')) t =
        replace pattern replacement t := replaceFrom_congr hbound 0 t
    rw [List.nil_append, replaceFrom, replaceFrom, hnone, ← hrest]
    rfl
  | cons c s ih =>
    rw [List.cons_append]
    cases skipped with
    | succ skipped =>
      rw [replaceFrom, replaceFrom]
      exact ih (some c) (Nat.le_of_succ_le_succ hskipped)
    | zero =>
      have happend := match?_append h.staysInLine before (c :: s) t
      rw [List.cons_append] at happend
      rw [replaceFrom, replaceFrom, happend]
      cases match? pattern before (c :: s) with
      | none =>
        dsimp only [Option.map_none]
        rw [ih (some c) (Nat.zero_le _), List.cons_append]
      | some rest =>
        have hlength : (s ++ .scalar '\n' :: t).length - (rest ++ .scalar '\n' :: t).length =
            s.length - rest.length := by
          simp only [List.length_append]
          omega
        dsimp only [Option.map_some]
        rw [hlength, ih (some c) (Nat.sub_le _ _), List.append_assoc]

/-- The pieces of a text with line feeds between them are the text. -/
theorem join_splitBy (t : Text) : join "\n" (t.splitBy CodePoint.isLineFeed) = t := by
  induction t with
  | nil => rfl
  | cons c t ih =>
    rw [splitBy]
    cases hpieces : splitBy CodePoint.isLineFeed t with
    | nil => exact absurd hpieces (splitBy_ne_nil t)
    | cons piece pieces =>
      rw [hpieces] at ih
      by_cases hc : c.isLineFeed = true
      · rw [if_pos hc, Documentation.join_lineFeed_cons, ih, List.nil_append]
        rw [CodePoint.isLineFeed, beq_iff_eq] at hc
        rw [hc]
      · rw [if_neg hc]
        cases pieces with
        | nil =>
          have hpiece : piece = t := ih
          rw [hpiece]
          rfl
        | cons next pieces =>
          rw [Documentation.join_lineFeed_cons] at ih ⊢
          rw [List.cons_append, ih]

/-- A pattern within lines is replaced line by line. -/
theorem replace_eq_join (h : IsWithinLine pattern) (t : Text) :
    replace pattern replacement t =
      join "\n" ((t.splitBy CodePoint.isLineFeed).map (replace pattern replacement)) := by
  have hlines : ∀ lines : List Text, replace pattern replacement (join "\n" lines) =
      join "\n" (lines.map (replace pattern replacement)) := by
    intro lines
    induction lines with
    | nil => rfl
    | cons line lines ih =>
      cases lines with
      | nil => rfl
      | cons next lines =>
        rw [Documentation.join_lineFeed_cons, replace, replaceFrom_append h none (Nat.zero_le _), ih,
          List.map_cons, List.map_cons, List.map_cons, Documentation.join_lineFeed_cons]
        rfl
  rw [← hlines, join_splitBy]

end AnnotatedMarkdown.Text
