import AnnotatedMarkdown.Markdown.Line
import AnnotatedMarkdown.Proofs.Documentation.Marker

/-!
# Lines of documents and their markers

A Markdown document is cut into lines after its line breaks have been unified.  Without
carriage returns this is the cut that rewriting makes, up to null characters.

* `splitBy_join` cuts joined lines apart again.
* `normalize_of_not_mem` is the unification of a text without carriage returns: it changes
  each code point by itself.
* `isMarkerFree_documentLines` takes lines without markers into a document.
-/

namespace AnnotatedMarkdown

/-! ## Cutting -/

namespace Text

variable {p : CodePoint → Bool}

theorem splitBy_append {s : Text} (hs : ∀ c ∈ s, p c = false) {c : CodePoint} (hc : p c = true)
    (t : Text) : splitBy p (s ++ c :: t) = s :: splitBy p t := by
  induction s with
  | nil => rw [List.nil_append, splitBy, if_pos hc]
  | cons d s ih =>
    have hd : ¬ p d = true := by simp [hs d List.mem_cons_self]
    rw [List.cons_append, splitBy, if_neg hd, ih fun e he => hs e (List.mem_cons_of_mem d he)]

theorem splitBy_of_forall_not {s : Text} (hs : ∀ c ∈ s, p c = false) : splitBy p s = [s] := by
  induction s with
  | nil => rfl
  | cons d s ih =>
    have hd : ¬ p d = true := by simp [hs d List.mem_cons_self]
    rw [splitBy, if_neg hd, ih fun e he => hs e (List.mem_cons_of_mem d he)]

theorem splitBy_ne_nil (t : Text) : splitBy p t ≠ [] := by
  cases t with
  | nil => simp [splitBy]
  | cons c t =>
    rw [splitBy]
    split
    · simp
    · cases splitBy p t <;> simp

/-- A piece of a text holds code points of the text, and none at which the text is cut. -/
theorem mem_of_mem_splitBy {t piece : Text} (h : piece ∈ splitBy p t) {c : CodePoint}
    (hc : c ∈ piece) : c ∈ t ∧ p c = false := by
  induction t generalizing piece with
  | nil =>
    obtain rfl : piece = [] := by simpa [splitBy] using h
    simp at hc
  | cons d t ih =>
    rw [splitBy] at h
    split at h
    · rcases List.mem_cons.1 h with rfl | h
      · simp at hc
      · obtain ⟨hmem, hcut⟩ := ih h hc
        exact ⟨List.mem_cons_of_mem d hmem, hcut⟩
    · next hd =>
      cases hpieces : splitBy p t with
      | nil => exact absurd hpieces (splitBy_ne_nil t)
      | cons first rest =>
        rw [hpieces] at h ih
        rcases List.mem_cons.1 h with rfl | h
        · rcases List.mem_cons.1 hc with rfl | hc
          · exact ⟨List.mem_cons_self, by simpa using hd⟩
          · obtain ⟨hmem, hcut⟩ := ih List.mem_cons_self hc
            exact ⟨List.mem_cons_of_mem d hmem, hcut⟩
        · obtain ⟨hmem, hcut⟩ := ih (List.mem_cons_of_mem first h) hc
          exact ⟨List.mem_cons_of_mem d hmem, hcut⟩

theorem splitBy_map (f : CodePoint → CodePoint) (hf : ∀ c, p (f c) = p c) (t : Text) :
    splitBy p (t.map f) = (splitBy p t).map (List.map f) := by
  induction t with
  | nil => rfl
  | cons c t ih =>
    rw [List.map_cons, splitBy, splitBy, ih, hf]
    split
    · rfl
    · cases splitBy p t <;> rfl

/-- Lines that are joined with line feeds are cut apart again. -/
theorem splitBy_join {lines : List Text} (hne : lines ≠ [])
    (h : ∀ line ∈ lines, ∀ c ∈ line, c.isLineFeed = false) :
    splitBy CodePoint.isLineFeed (join "\n" lines) = lines := by
  induction lines with
  | nil => exact absurd rfl hne
  | cons line lines ih =>
    have hline := h line List.mem_cons_self
    cases lines with
    | nil => exact splitBy_of_forall_not hline
    | cons next lines =>
      rw [Documentation.join_lineFeed_cons, splitBy_append hline (by decide),
        ih (by simp) fun l hl => h l (List.mem_cons_of_mem line hl)]

theorem mem_join {lines : List Text} {c : CodePoint} (h : c ∈ join "\n" lines) :
    c = .scalar '\n' ∨ ∃ line ∈ lines, c ∈ line := by
  induction lines with
  | nil => simp [join] at h
  | cons line lines ih =>
    cases lines with
    | nil => exact Or.inr ⟨line, List.mem_cons_self, h⟩
    | cons next lines =>
      rw [Documentation.join_lineFeed_cons] at h
      rcases List.mem_append.1 h with h | h
      · exact Or.inr ⟨line, List.mem_cons_self, h⟩
      · rcases List.mem_cons.1 h with h | h
        · exact Or.inl h
        · rcases ih h with h | ⟨l, hl, h⟩
          · exact Or.inl h
          · exact Or.inr ⟨l, List.mem_cons_of_mem line hl, h⟩

end Text

namespace Markdown

open Documentation

/-! ## Documents -/

/-- A code point as a document holds it: null characters are replaced. -/
def visible (c : CodePoint) : CodePoint :=
  if c == .scalar '\x00' then .scalar '\ufffd' else c

/-- Without carriage returns only null characters are changed. -/
theorem normalize_of_not_mem {t : Text} (h : .scalar '\r' ∉ t) : normalize t = t.map visible := by
  fun_induction normalize t with
  | case1 => rfl
  | case2 => simp at h
  | case3 c t hpair ih =>
    have hc : ¬ (c == CodePoint.scalar '\r') = true := by
      intro heq
      exact h (by simp [beq_iff_eq.1 heq])
    rw [ih fun hmem => h (List.mem_cons_of_mem c hmem), if_neg hc]
    rfl

theorem mem_of_mem_linesOf {texts : List Text} {l : Line} (h : l ∈ linesOf texts) : l.text ∈ texts := by
  fun_induction linesOf texts with
  | case1 => simp at h
  | case2 text hall => simp at h
  | case3 text hall =>
    obtain rfl : l = .ofText text false := by simpa using h
    exact List.mem_cons_self
  | case4 text texts hne ih =>
    rcases List.mem_cons.1 h with rfl | h
    · exact List.mem_cons_self
    · exact List.mem_cons_of_mem text (ih h)

/-- What does not tell null characters from their replacement does not see the change. -/
theorem visible_congr {α : Type} (g : CodePoint → α)
    (h : g (.scalar '\ufffd') = g (.scalar '\x00')) (c : CodePoint) : g (visible c) = g c := by
  by_cases hnull : c = .scalar '\x00'
  · rw [hnull]
    exact h
  · rw [visible, if_neg (by simpa using hnull)]

theorem keepsMarks_visible : KeepsMarks visible where
  blank := visible_congr CodePoint.isBlank (by decide)
  gap := visible_congr isGap (by decide)
  colon c := iff_of_eq (visible_congr (· = .scalar ':') (by simp) c)
  headingMark := visible_congr isHeadingMark (by decide)

/-- The lines of a document are without markers if those of its text are. -/
theorem isMarkerFree_documentLines {t : Text} (hreturn : .scalar '\r' ∉ t)
    (h : ∀ line ∈ t.splitBy CodePoint.isLineFeed, IsMarkerFree line) :
    ∀ l ∈ documentLines t, IsMarkerFree l.text := by
  have hfeed := visible_congr CodePoint.isLineFeed (by decide)
  intro l hl
  have hmem := mem_of_mem_linesOf hl
  rw [normalize_of_not_mem hreturn, Text.splitBy_map visible hfeed] at hmem
  obtain ⟨line, hline, heq⟩ := List.mem_map.1 hmem
  rw [← heq]
  exact (h line hline).map keepsMarks_visible

end Markdown

end AnnotatedMarkdown
