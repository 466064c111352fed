import AnnotatedMarkdown.Text.Blank
import Mathlib.Data.List.TakeWhile

/-!
# Trimmed texts

What is left of a text when blanks, or other code points, are removed at its ends.  A text that is
trimmed already has no blank at either end (`isBlank_head_of_trim_eq`, `isBlank_last_of_trim_eq`).
-/

namespace AnnotatedMarkdown

namespace Text

variable {p : CodePoint → Bool}

theorem trimEndBy_append_of_ne_nil (s : Text) {t : Text} (h : trimEndBy p t ≠ []) :
    trimEndBy p (s ++ t) = s ++ trimEndBy p t := by
  induction s with
  | nil => rfl
  | cons c s ih =>
    rw [List.cons_append, trimEndBy, ih]
    split
    · next hnil => exact absurd (List.append_eq_nil_iff.1 hnil).2 h
    · rfl

theorem trimEndBy_append_of_all (s : Text) {t : Text} (h : t.all p = true) :
    trimEndBy p (s ++ t) = trimEndBy p s := by
  induction s with
  | nil => exact (trimEndBy_eq_nil_iff p t).2 h
  | cons c s ih => rw [List.cons_append, trimEndBy, trimEndBy, ih]

/-- A text whose last code point fails `p` stays as it is. -/
theorem trimEndBy_concat {c : CodePoint} (h : p c = false) (t : Text) :
    trimEndBy p (t ++ [c]) = t ++ [c] := by
  have hlast : trimEndBy p [c] = [c] := by simp [trimEndBy, h]
  rw [trimEndBy_append_of_ne_nil t (by simp [hlast]), hlast]

/-- The last code point of a trimmed text fails `p`. -/
theorem not_of_trimEndBy_eq_concat {t s : Text} {c : CodePoint} (h : trimEndBy p t = s ++ [c]) :
    p c = false := by
  obtain ⟨tail, htail, hall⟩ := exists_append_trimEndBy p t
  cases hc : p c with
  | false => rfl
  | true =>
    -- With its last code point the trimmed text would be trimmed further.
    have htrimmed : trimEndBy p t = trimEndBy p s := by
      rw [htail, h, List.append_assoc]
      exact trimEndBy_append_of_all s (by simp [hc, hall])
    obtain ⟨tail', htail', -⟩ := exists_append_trimEndBy p s
    have hlength := congrArg List.length htail'
    rw [← htrimmed, h] at hlength
    simp at hlength

theorem mem_of_mem_trimEndBy {t : Text} {c : CodePoint} (h : c ∈ trimEndBy p t) : c ∈ t := by
  obtain ⟨tail, htail, -⟩ := exists_append_trimEndBy p t
  rw [htail]
  exact List.mem_append_left tail h

theorem trimEndBy_trimEndBy (t : Text) : trimEndBy p (trimEndBy p t) = trimEndBy p t := by
  rcases List.eq_nil_or_concat (trimEndBy p t) with hnil | ⟨s, c, hconcat⟩
  · rw [hnil]
    rfl
  · rw [List.concat_eq_append] at hconcat
    rw [hconcat]
    exact trimEndBy_concat (not_of_trimEndBy_eq_concat hconcat) s

theorem trimEndBy_map (f : CodePoint → CodePoint) (hf : ∀ c, p (f c) = p c) (t : Text) :
    trimEndBy p (t.map f) = (trimEndBy p t).map f := by
  induction t with
  | nil => rfl
  | cons c t ih =>
    rw [List.map_cons, trimEndBy, trimEndBy, ih, hf]
    cases trimEndBy p t with
    | nil => cases p c <;> rfl
    | cons d u => rfl

theorem mem_of_mem_trim {t : Text} {c : CodePoint} (h : c ∈ t.trim) : c ∈ t :=
  (List.dropWhile_suffix _).mem (mem_of_mem_trimEndBy h)

/-- A text without blanks at its ends has none to lose. -/
theorem trim_trim (t : Text) : t.trim.trim = t.trim := by
  have hstart : t.trim.trimStart = t.trim := by
    obtain ⟨tail, htail, -⟩ := exists_append_trimEndBy CodePoint.isBlank t.trimStart
    cases htrim : t.trim with
    | nil => rfl
    | cons c rest =>
      have hhead := List.head?_dropWhile_not CodePoint.isBlank t
      rw [← trimStart, htail, ← trimEnd, ← trim, htrim] at hhead
      rw [trimStart, List.dropWhile_cons_of_neg (by simpa using hhead)]
  rw [trim, hstart]
  exact trimEndBy_trimEndBy _

theorem trimStart_of_trim_eq {t : Text} (h : t.trim = t) : t.trimStart = t := by
  obtain ⟨tail, htail, -⟩ := exists_append_trimEndBy CodePoint.isBlank t.trimStart
  have hsuffix : t.trimStart <:+ t := List.dropWhile_suffix _
  have htrim : t.trimStart = t ++ tail := by rwa [← Text.trimEnd, ← Text.trim, h] at htail
  refine hsuffix.eq_of_length_le ?_
  rw [htrim, List.length_append]
  exact Nat.le_add_right _ _

theorem isBlank_head_of_trim_eq {t : Text} (h : t.trim = t) : ∀ c ∈ t.head?, c.isBlank = false := by
  have hstart := trimStart_of_trim_eq h
  rw [Text.trimStart, List.dropWhile_eq_self_iff] at hstart
  cases t with
  | nil => exact nofun
  | cons c t =>
    rintro _ ⟨⟩
    exact Bool.eq_false_iff.2 (hstart (Nat.succ_pos _))

theorem isBlank_last_of_trim_eq {t : Text} (h : t.trim = t) : ∀ c ∈ t.getLast?, c.isBlank = false := by
  intro c hc
  obtain ⟨front, rfl⟩ := List.getLast?_eq_some_iff.1 hc
  rw [Text.trim, trimStart_of_trim_eq h] at h
  exact not_of_trimEndBy_eq_concat h

end Text

end AnnotatedMarkdown
