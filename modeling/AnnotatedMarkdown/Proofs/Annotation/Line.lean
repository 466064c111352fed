import AnnotatedMarkdown.Annotation.Line

/-!
# Lines and their tags

What the cut of a text into lines and the tags of lines say about each other.

* Line breaks.  A text without code points of line breaks is one line
  (`splitLines_of_isBreakFree`), every line of a text is free of them
  (`isBreakFree_of_mem_splitLines`), and lines that are joined with line feeds are cut
  apart again (`splitLines_join`).
* Tags.  `opensRecord` asks for the text in front of a reference and nothing else;
  `Tag.ofLine_of_isBreakFree` says that a line without line breaks is tagged by this
  test, by the test for separators, and by no other.
-/

namespace AnnotatedMarkdown

/-- Whether a code point can be a part of a line break. -/
def CodePoint.isBreak (c : CodePoint) : Bool :=
  c == .scalar '\r' || c == .scalar '\n'

/-- No code point of the text can be a part of a line break. -/
def Text.IsBreakFree (t : Text) : Prop :=
  ∀ c ∈ t, c.isBreak = false

instance (t : Text) : Decidable t.IsBreakFree :=
  inferInstanceAs (Decidable (∀ c ∈ t, c.isBreak = false))

/-! ## Line breaks -/

theorem CodePoint.isBreak_eq_false_iff {c : CodePoint} :
    c.isBreak = false ↔ c ≠ .scalar '\r' ∧ c ≠ .scalar '\n' := by
  simp [CodePoint.isBreak]

theorem Text.isBreakFree_nil : Text.IsBreakFree [] := by
  simp [Text.IsBreakFree]

theorem Text.isBreakFree_cons {c : CodePoint} {t : Text} :
    Text.IsBreakFree (c :: t) ↔ c.isBreak = false ∧ t.IsBreakFree := by
  simp [Text.IsBreakFree]

theorem Text.isBreakFree_append {s t : Text} :
    Text.IsBreakFree (s ++ t) ↔ s.IsBreakFree ∧ t.IsBreakFree := by
  simp only [Text.IsBreakFree, List.mem_append]
  constructor
  · intro h
    exact ⟨fun c hc => h c (Or.inl hc), fun c hc => h c (Or.inr hc)⟩
  · rintro ⟨hs, ht⟩ c (hc | hc)
    · exact hs c hc
    · exact ht c hc

/-- A code point that is no part of a line break joins the first line. -/
theorem splitLines_cons {c : CodePoint} (t : Text) (hc : c.isBreak = false) :
    splitLines (c :: t) = consToFirst c (splitLines t) := by
  have hne := CodePoint.isBreak_eq_false_iff.1 hc
  rw [splitLines] <;> simp_all

theorem splitLines_ne_nil (t : Text) : splitLines t ≠ [] := by
  fun_cases splitLines t with
  | case6 c t =>
    cases splitLines t <;> simp [consToFirst]
  | _ => simp

/-- Every line of a text is free of line breaks. -/
theorem isBreakFree_of_mem_splitLines {t line : Text} (h : line ∈ splitLines t) :
    line.IsBreakFree := by
  induction t using splitLines.induct generalizing line with
  | case1 =>
    simp only [splitLines, List.mem_singleton] at h
    rw [h]
    exact Text.isBreakFree_nil
  | case2 t ih | case3 t ih =>
    simp only [splitLines, List.mem_cons] at h
    rcases h with rfl | h
    · exact Text.isBreakFree_nil
    · exact ih h
  | case4 t hn ih | case5 t hn ih =>
    rw [splitLines] at h
    · rcases List.mem_cons.1 h with rfl | h
      · exact Text.isBreakFree_nil
      · exact ih h
    · exact hn
  | case6 c t _ _ hr hn ih =>
    have hc : c.isBreak = false := CodePoint.isBreak_eq_false_iff.2 ⟨hr, hn⟩
    rw [splitLines_cons t hc] at h
    cases hlines : splitLines t with
    | nil => exact absurd hlines (splitLines_ne_nil t)
    | cons first rest =>
      rw [hlines] at h ih
      rcases List.mem_cons.1 h with rfl | h
      · exact Text.isBreakFree_cons.2 ⟨hc, ih List.mem_cons_self⟩
      · exact ih (List.mem_cons_of_mem first h)

/-- A text without line breaks in front of a text belongs to the first line. -/
theorem splitLines_append {s : Text} (hs : s.IsBreakFree) (t : Text) :
    splitLines (s ++ t) = s.foldr consToFirst (splitLines t) := by
  induction s with
  | nil => rfl
  | cons c s ih =>
    obtain ⟨hc, hs⟩ := Text.isBreakFree_cons.1 hs
    rw [List.cons_append, splitLines_cons _ hc, ih hs]
    rfl

theorem foldr_consToFirst (s line : Text) (lines : List Text) :
    s.foldr consToFirst (line :: lines) = (s ++ line) :: lines := by
  induction s with
  | nil => rfl
  | cons c s ih => rw [List.foldr_cons, ih]; rfl

/-- A text without line breaks is one line. -/
theorem splitLines_of_isBreakFree {s : Text} (hs : s.IsBreakFree) : splitLines s = [s] := by
  have h := splitLines_append hs []
  rw [List.append_nil, splitLines, foldr_consToFirst, List.append_nil] at h
  exact h

/-- A line feed ends a line, unless a carriage return follows it. -/
theorem splitLines_lineFeed {t : Text} (ht : t.head? ≠ some (.scalar '\r')) :
    splitLines (.scalar '\n' :: t) = [] :: splitLines t := by
  rw [splitLines]
  rintro rest rfl
  exact ht rfl

/-- Lines joined with line feeds start with a carriage return only if the first does. -/
theorem head?_join_ne_of_isBreakFree {lines : List Text} (h : ∀ line ∈ lines, line.IsBreakFree) :
    (Text.join "\n" lines).head? ≠ some (.scalar '\r') := by
  have hfirst : ∀ line ∈ lines, line.head? ≠ some (.scalar '\r') := by
    intro line hline hhead
    have hmem : CodePoint.scalar '\r' ∈ line := List.mem_of_mem_head? hhead
    have := h line hline _ hmem
    simp [CodePoint.isBreak] at this
  match lines with
  | [] => simp [Text.join]
  | [line] => exact hfirst line List.mem_cons_self
  | [] :: _ :: _ => simp [Text.join, Text.ofString, Text.ofChars]
  | (c :: line) :: second :: rest =>
    have := hfirst (c :: line) List.mem_cons_self
    simpa [Text.join] using this

/-- Lines that are joined with line feeds are cut apart again. -/
theorem splitLines_join {lines : List Text} (hne : lines ≠ [])
    (h : ∀ line ∈ lines, line.IsBreakFree) : splitLines (Text.join "\n" lines) = lines := by
  induction lines with
  | nil => exact absurd rfl hne
  | cons line rest ih =>
    have hline : line.IsBreakFree := h line List.mem_cons_self
    have hrest : ∀ l ∈ rest, l.IsBreakFree := fun l hl => h l (List.mem_cons_of_mem line hl)
    cases rest with
    | nil => exact splitLines_of_isBreakFree hline
    | cons second rest =>
      have hcut := splitLines_lineFeed (head?_join_ne_of_isBreakFree hrest)
      rw [ih (by simp) hrest] at hcut
      have hjoin : Text.join "\n" (line :: second :: rest) =
          line ++ .scalar '\n' :: Text.join "\n" (second :: rest) := by
        simp [Text.join, Text.ofString, Text.ofChars]
      rw [hjoin, splitLines_append hline, hcut, foldr_consToFirst, List.append_nil]

/-! ## Tags -/

/-- Whether a line starts with the text in front of a reference. -/
def opensRecord (line : Text) : Bool :=
  markerLead.isPrefixOf line

theorem Text.after?_eq_some_iff {lead t rest : Text} :
    Text.after? lead t = some rest ↔ t = lead ++ rest := by
  constructor
  · exact Text.eq_append_of_after?
  · rintro rfl
    exact Text.after?_append lead rest

theorem opensRecord_iff {line : Text} : opensRecord line = true ↔ ∃ rest, line = markerLead ++ rest := by
  rw [opensRecord, List.isPrefixOf_iff_prefix]
  constructor
  · rintro ⟨rest, h⟩
    exact ⟨rest, h.symm⟩
  · rintro ⟨rest, h⟩
    exact ⟨rest, h.symm⟩

theorem withoutFinalLineFeed_of_isBreakFree {t : Text} (h : t.IsBreakFree) :
    withoutFinalLineFeed t = t := by
  fun_induction withoutFinalLineFeed t with
  | case1 => rfl
  | case2 c hc =>
    have := (CodePoint.isBreak_eq_false_iff.1 (Text.isBreakFree_cons.1 h).1).2
    simp [CodePoint.isLineFeed, this] at hc
  | case3 => rfl
  | case4 c t hne ih => rw [ih (Text.isBreakFree_cons.1 h).2]

theorem any_isLineFeed_of_isBreakFree {t : Text} (h : t.IsBreakFree) :
    t.any CodePoint.isLineFeed = false := by
  rw [List.any_eq_false]
  intro c hc
  have := (CodePoint.isBreak_eq_false_iff.1 (h c hc)).2
  simp [CodePoint.isLineFeed, this]

/-- The reference of a marker line is the trimmed rest of the line. -/
theorem markerReference?_of_isBreakFree {line : Text} (h : line.IsBreakFree) :
    markerReference? line =
      if opensRecord line then some (Text.trim (line.drop markerLead.length)) else none := by
  cases hopens : opensRecord line with
  | true =>
    obtain ⟨rest, rfl⟩ := opensRecord_iff.1 hopens
    have hrest : Text.IsBreakFree rest := (Text.isBreakFree_append.1 h).2
    simp [markerReference?, Text.after?_append, withoutFinalLineFeed_of_isBreakFree hrest,
      any_isLineFeed_of_isBreakFree hrest]
  | false =>
    cases hafter : Text.after? markerLead line with
    | none => simp [markerReference?, hafter]
    | some rest =>
      have := opensRecord_iff.2 ⟨rest, Text.after?_eq_some_iff.1 hafter⟩
      rw [this] at hopens
      contradiction

/-- A line without line breaks is a marker if it starts with the text in front of a
reference, else a separator or content. -/
theorem Tag.ofLine_of_isBreakFree {line : Text} (h : line.IsBreakFree) :
    Tag.ofLine line =
      if opensRecord line then .marker (Text.trim (line.drop markerLead.length))
      else if isSeparator line then .separator else .content line := by
  rw [Tag.ofLine, markerReference?_of_isBreakFree h]
  cases opensRecord line <;> rfl

end AnnotatedMarkdown
