import AnnotatedMarkdown.Documentation.Marker
import AnnotatedMarkdown.Proofs.Text.Trimming

/-!
# Markers at the ends of texts

A text leads to an example if two colons and blanks end it.  This module follows these
colons through what is done to texts before they are asked for.

* `isSuffixOf_trimEndBy_iff` says where the colons are, without trimming.  All other lemmas
  about them come from it.
* `endsInMarker_append` finds them on one side of any other code point, and so in one of
  several lines that are joined (`exists_endsInMarker_of_join`).
* `not_endsInMarker_rewriteLine` shows that no rewritten line ends in them, and
  `isLead_rewriteLine` that it leads to no example, unusual blanks aside.
-/

namespace AnnotatedMarkdown

namespace Documentation

open Text

/-! ## Ends in a marker -/

/-- A text ends in a marker and code points that satisfy `p`. -/
def EndsInMarker (p : CodePoint → Bool) (t : Text) : Prop :=
  ∃ body tail, t = body ++ marker ++ tail ∧ tail.all p = true

variable {p q : CodePoint → Bool}

theorem marker_eq : marker = [.scalar ':', .scalar ':'] :=
  rfl

/-- A marker ends a trimmed text if it ends the text up to what is trimmed. -/
theorem isSuffixOf_trimEndBy_iff (hp : p (.scalar ':') = false) {t : Text} :
    marker.isSuffixOf (t.trimEndBy p) = true ↔ EndsInMarker p t := by
  rw [List.isSuffixOf_iff_suffix]
  constructor
  · rintro ⟨body, hbody⟩
    obtain ⟨tail, htail, hall⟩ := exists_append_trimEndBy p t
    exact ⟨body, tail, by rw [hbody, ← htail], hall⟩
  · rintro ⟨body, tail, rfl, hall⟩
    have hconcat : body ++ marker = (body ++ [.scalar ':']) ++ [.scalar ':'] := by
      simp [marker_eq]
    rw [trimEndBy_append_of_all _ hall, hconcat, trimEndBy_concat hp, ← hconcat]
    exact ⟨body, rfl⟩

theorem isLead_iff {t : Text} : isLead t = true ↔ EndsInMarker CodePoint.isBlank t :=
  isSuffixOf_trimEndBy_iff (by decide)

theorem EndsInMarker.mono {t : Text} (h : EndsInMarker p t) (hpq : ∀ c ∈ t, p c = true → q c = true) :
    EndsInMarker q t := by
  obtain ⟨body, tail, rfl, hall⟩ := h
  refine ⟨body, tail, rfl, ?_⟩
  rw [List.all_eq_true] at hall ⊢
  exact fun c hc => hpq c (by simp [hc]) (hall c hc)

theorem EndsInMarker.append_left (s : Text) {t : Text} (h : EndsInMarker p t) :
    EndsInMarker p (s ++ t) := by
  obtain ⟨body, tail, rfl, hall⟩ := h
  exact ⟨s ++ body, tail, by simp, hall⟩

theorem EndsInMarker.append_right {s t : Text} (h : EndsInMarker p s) (ht : t.all p = true) :
    EndsInMarker p (s ++ t) := by
  obtain ⟨body, tail, rfl, hall⟩ := h
  exact ⟨body, tail ++ t, by simp, by simp [hall, ht]⟩

/-- No marker reaches over another code point. -/
theorem endsInMarker_append {s t : Text} {c : CodePoint} (hc : c ≠ .scalar ':')
    (h : EndsInMarker p (s ++ c :: t)) : EndsInMarker p s ∨ EndsInMarker p t := by
  obtain ⟨body, tail, heq, hall⟩ := h
  rw [List.append_assoc, marker_eq, List.cons_append, List.cons_append, List.nil_append] at heq
  rcases List.append_eq_append_iff.1 heq with ⟨more, rfl, hmore⟩ | ⟨more, rfl, hmore⟩
  · -- The code point is in front of the marker.
    cases more with
    | nil => exact absurd (List.cons.inj hmore).1 hc
    | cons d more =>
      rw [List.cons_append, List.cons.injEq] at hmore
      obtain ⟨rfl, rfl⟩ := hmore
      exact Or.inr ⟨more, tail, by simp [marker_eq], hall⟩
  · -- The code point is in the marker or behind it.
    match more, hmore with
    | [], hmore => exact absurd (List.cons.inj hmore).1.symm hc
    | [_], hmore => exact absurd (List.cons.inj (List.cons.inj hmore).2).1.symm hc
    | d :: e :: more, hmore =>
      simp only [List.cons_append, List.cons.injEq] at hmore
      obtain ⟨rfl, rfl, rfl⟩ := hmore
      simp only [List.all_append, Bool.and_eq_true] at hall
      exact Or.inl ⟨body, more, by simp [marker_eq], hall.1⟩

theorem not_endsInMarker_nil : ¬ EndsInMarker p [] := by
  rintro ⟨body, tail, heq, -⟩
  simp [marker_eq] at heq

theorem join_lineFeed_cons (line next : Text) (lines : List Text) :
    Text.join "\n" (line :: next :: lines) =
      line ++ .scalar '\n' :: Text.join "\n" (next :: lines) :=
  List.append_assoc line _ _

/-- A marker at the end of joined lines is at the end of one of them. -/
theorem exists_endsInMarker_of_join {lines : List Text} (h : EndsInMarker p (Text.join "\n" lines)) :
    ∃ line ∈ lines, EndsInMarker p line := by
  have hfeed : CodePoint.scalar '\n' ≠ .scalar ':' := by decide
  induction lines with
  | nil => exact absurd h not_endsInMarker_nil
  | cons line lines ih =>
    cases lines with
    | nil => exact ⟨line, List.mem_cons_self, h⟩
    | cons next lines =>
      rw [join_lineFeed_cons] at h
      rcases endsInMarker_append hfeed h with h | h
      · exact ⟨line, List.mem_cons_self, h⟩
      · obtain ⟨l, hl, h⟩ := ih h
        exact ⟨l, List.mem_cons_of_mem line hl, h⟩

/-- Blanks around a text have no part in its marker. -/
theorem isLead_of_isLead_trim {t : Text} (h : isLead t.trim = true) : isLead t = true := by
  rw [isLead_iff] at h ⊢
  obtain ⟨tail, htail, hall⟩ := exists_append_trimEndBy CodePoint.isBlank t.trimStart
  have hsplit : t = t.takeWhile CodePoint.isBlank ++ (t.trim ++ tail) := by
    rw [Text.trim, Text.trimEnd, ← htail, Text.trimStart, List.takeWhile_append_dropWhile]
  rw [hsplit]
  exact (h.append_right hall).append_left _

theorem isLead_trim {t : Text} (h : isLead t = true) : isLead t.trim = true := by
  obtain ⟨body, tail, rfl, hall⟩ := isLead_iff.1 h
  have hstart : ∃ front, Text.trimStart (body ++ marker ++ tail) = front ++ marker ++ tail := by
    rw [Text.trimStart, List.append_assoc, List.dropWhile_append]
    split
    · exact ⟨[], rfl⟩
    · exact ⟨_, (List.append_assoc _ _ _).symm⟩
  obtain ⟨front, hfront⟩ := hstart
  have hends : EndsInMarker CodePoint.isBlank (front ++ marker ++ tail) := ⟨front, tail, rfl, hall⟩
  obtain ⟨rest, hrest⟩ := List.isSuffixOf_iff_suffix.1
    ((isSuffixOf_trimEndBy_iff (by decide)).2 hends)
  rw [isLead_iff, Text.trim, hfront, Text.trimEnd, ← hrest]
  exact ⟨rest, [], by rw [List.append_nil], rfl⟩

/-! ## Rewritten lines -/

/-- A line without its marker. -/
def rewriteLine (line : Text) : Text :=
  if line = marker then []
  else
    let t := line.trimEndBy isGap
    if marker.isSuffixOf t then t.trimEndBy isColon ++ [.scalar ':'] else line

theorem isSuffixOf_gap_iff {line : Text} :
    marker.isSuffixOf (line.trimEndBy isGap) = true ↔ EndsInMarker isGap line :=
  isSuffixOf_trimEndBy_iff (by decide)

/-- The colon at the end of a rewritten line is alone. -/
theorem not_endsInMarker_concat_colon (hp : p (.scalar ':') = false) (line : Text) :
    ¬ EndsInMarker p (line.trimEndBy isColon ++ [.scalar ':']) := by
  rw [← isSuffixOf_trimEndBy_iff hp, trimEndBy_concat hp, List.isSuffixOf_iff_suffix]
  rintro ⟨body, hbody⟩
  have htrimmed : line.trimEndBy isColon = body ++ [.scalar ':'] := by
    have hconcat : body ++ marker = (body ++ [.scalar ':']) ++ [.scalar ':'] := by
      simp [marker_eq]
    rw [hconcat] at hbody
    exact (List.append_inj' hbody rfl).1.symm
  exact absurd (not_of_trimEndBy_eq_concat htrimmed) (by decide)

/-- A rewritten line is empty, ends in a single colon, or is a line that ends in no marker. -/
theorem rewriteLine_cases (line : Text) :
    rewriteLine line = [] ∨
      (∃ t, (∀ c ∈ t, c ∈ line) ∧ rewriteLine line = Text.trimEndBy isColon t ++ [.scalar ':']) ∨
      (rewriteLine line = line ∧ ¬ EndsInMarker isGap line) := by
  by_cases hmarker : line = marker
  · exact Or.inl (if_pos hmarker)
  · have hline : rewriteLine line =
        if marker.isSuffixOf (line.trimEndBy isGap) then
          (line.trimEndBy isGap).trimEndBy isColon ++ [.scalar ':']
        else line := if_neg hmarker
    by_cases hends : marker.isSuffixOf (line.trimEndBy isGap) = true
    · exact Or.inr (Or.inl ⟨_, fun c hc => mem_of_mem_trimEndBy hc, hline.trans (if_pos hends)⟩)
    · rw [isSuffixOf_gap_iff] at hends
      refine Or.inr (Or.inr ⟨hline.trans (if_neg ?_), hends⟩)
      rwa [isSuffixOf_gap_iff]

theorem not_endsInMarker_rewriteLine (line : Text) : ¬ EndsInMarker isGap (rewriteLine line) := by
  rcases rewriteLine_cases line with h | ⟨t, -, h⟩ | ⟨h, hends⟩
  · rw [h]
    exact not_endsInMarker_nil
  · rw [h]
    exact not_endsInMarker_concat_colon (by decide) t
  · rw [h]
    exact hends

/-- A rewritten line leads to no example, if the line has only spaces and tabs behind its marker. -/
theorem isLead_rewriteLine {line : Text}
    (h : isLead line = true → marker.isSuffixOf (line.trimEndBy isGap) = true) :
    isLead (rewriteLine line) = false := by
  rw [Bool.eq_false_iff, Ne, isLead_iff]
  rcases rewriteLine_cases line with hline | ⟨t, -, hline⟩ | ⟨hline, hends⟩
  · rw [hline]
    exact not_endsInMarker_nil
  · rw [hline]
    exact not_endsInMarker_concat_colon (by decide) t
  · rw [hline]
    exact fun hlead => hends (isSuffixOf_gap_iff.1 (h (isLead_iff.2 hlead)))

/-! ### Closed headings -/

/-- Whether a code point is a mark of a heading. -/
def isHeadingMark (c : CodePoint) : Bool :=
  c == .scalar '#'

/-- Whether a line ends in the marks that close a heading, with a marker in front of them. -/
def closesAfterMarker (line : Text) : Bool :=
  let cut := (line.trimEndBy isGap).trimEndBy isHeadingMark
  cut.getLast?.any isGap && isLead cut

/-- Rewriting closes no heading. -/
theorem closesAfterMarker_rewriteLine {line : Text} (h : closesAfterMarker line = false) :
    closesAfterMarker (rewriteLine line) = false := by
  rcases rewriteLine_cases line with hline | ⟨t, -, hline⟩ | ⟨hline, -⟩
  · rw [hline]
    rfl
  · have hgap : isGap (.scalar ':') = false := by decide
    have hmark : isHeadingMark (.scalar ':') = false := by decide
    rw [hline, closesAfterMarker, trimEndBy_concat hgap, trimEndBy_concat hmark,
      List.getLast?_concat, Option.any_some, hgap, Bool.false_and]
  · rw [hline, h]

/-- The code points of a rewritten line are those of the line, and colons. -/
theorem mem_rewriteLine {line : Text} {c : CodePoint} (h : c ∈ rewriteLine line) :
    c ∈ line ∨ c = .scalar ':' := by
  rcases rewriteLine_cases line with hline | ⟨t, ht, hline⟩ | ⟨hline, -⟩
  · simp [hline] at h
  · rw [hline, List.mem_append, List.mem_singleton] at h
    rcases h with h | h
    · exact Or.inl (ht c (mem_of_mem_trimEndBy h))
    · exact Or.inr h
  · exact Or.inl (hline ▸ h)

/-! ## Lines without markers -/

/-- A line that leads to no example as a heading or as a part of a paragraph. -/
structure IsMarkerFree (line : Text) : Prop where
  isLead : isLead line = false
  closings : closesAfterMarker line = false

theorem isMarkerFree_rewriteLine {line : Text}
    (hmarker : Documentation.isLead line = true → marker.isSuffixOf (line.trimEndBy isGap) = true)
    (hclosings : closesAfterMarker line = false) : IsMarkerFree (rewriteLine line) where
  isLead := isLead_rewriteLine hmarker
  closings := closesAfterMarker_rewriteLine hclosings

/-! ### Replaced code points -/

/-- A change of single code points that is of no account for markers. -/
structure KeepsMarks (f : CodePoint → CodePoint) : Prop where
  blank : ∀ c, (f c).isBlank = c.isBlank
  gap : ∀ c, isGap (f c) = isGap c
  colon : ∀ c, f c = .scalar ':' ↔ c = .scalar ':'
  headingMark : ∀ c, isHeadingMark (f c) = isHeadingMark c

variable {f : CodePoint → CodePoint}

theorem endsInMarker_map (hp : ∀ c, p (f c) = p c) (hcolon : ∀ c, f c = .scalar ':' ↔ c = .scalar ':')
    {t : Text} : EndsInMarker p (t.map f) ↔ EndsInMarker p t := by
  constructor
  · rintro ⟨body, tail, heq, hall⟩
    obtain ⟨front, tail', rfl, hfront, rfl⟩ := List.map_eq_append_iff.1 heq
    obtain ⟨body', marker', rfl, -, hmarker⟩ := List.map_eq_append_iff.1 hfront
    obtain rfl : marker' = marker := by
      obtain ⟨c, rest, rfl, hc, hrest⟩ := List.map_eq_cons_iff.1 hmarker
      obtain ⟨d, rest, rfl, hd, hnil⟩ := List.map_eq_cons_iff.1 hrest
      obtain rfl : rest = [] := List.map_eq_nil_iff.1 hnil
      rw [(hcolon c).1 hc, (hcolon d).1 hd, marker_eq]
    exact ⟨body', tail', rfl, by simpa [List.all_map, Function.comp_def, hp] using hall⟩
  · rintro ⟨body, tail, rfl, hall⟩
    refine ⟨body.map f, tail.map f, ?_, by simpa [List.all_map, Function.comp_def, hp] using hall⟩
    simp [marker_eq, (hcolon (.scalar ':')).2 rfl]

theorem KeepsMarks.isLead (hf : KeepsMarks f) (t : Text) : isLead (t.map f) = isLead t := by
  rw [Bool.eq_iff_iff, isLead_iff, isLead_iff, endsInMarker_map hf.blank hf.colon]

theorem KeepsMarks.closesAfterMarker (hf : KeepsMarks f) (t : Text) :
    closesAfterMarker (t.map f) = closesAfterMarker t := by
  rw [Documentation.closesAfterMarker, trimEndBy_map f hf.gap, trimEndBy_map f hf.headingMark,
    List.getLast?_map, Option.any_map, hf.isLead]
  simp only [hf.gap]
  rfl

theorem IsMarkerFree.map (hf : KeepsMarks f) {t : Text} (h : IsMarkerFree t) :
    IsMarkerFree (t.map f) where
  isLead := by rw [hf.isLead, h.isLead]
  closings := by rw [hf.closesAfterMarker, h.closings]

end Documentation

end AnnotatedMarkdown
