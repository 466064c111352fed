import AnnotatedMarkdown.Text.CodePoint

/-!
# Texts of files

A file holds the characters of a text in UTF-8.  A carriage return, with or without a
line feed after it, is read as a line feed; it is written as it is.
-/

namespace AnnotatedMarkdown.Text

/-- The bytes of a text, unless it holds a surrogate half. -/
def toUtf8? (t : Text) : Option ByteArray :=
  t.chars?.map fun cs => (String.ofList cs).toUTF8

/-- The text of bytes, unless they are malformed. -/
def ofUtf8? (bytes : ByteArray) : Option Text :=
  (String.fromUTF8? bytes).map ofString

/-- A text whose line breaks are line feeds. -/
def withLineFeeds : Text → Text
  | [] => []
  | .scalar '\r' :: .scalar '\n' :: t => .scalar '\n' :: withLineFeeds t
  | .scalar '\r' :: t => .scalar '\n' :: withLineFeeds t
  | c :: t => c :: withLineFeeds t

theorem ofString_ofList (cs : List Char) : ofString (String.ofList cs) = ofChars cs := by
  simp [ofString]

theorem fromUTF8?_toUTF8 (s : String) : String.fromUTF8? s.toUTF8 = some s := by
  unfold String.fromUTF8?
  exact dif_pos s.isValidUTF8

theorem chars?_append {s t : Text} {cs ds : List Char} (hs : s.chars? = some cs)
    (ht : t.chars? = some ds) : chars? (s ++ t) = some (cs ++ ds) := by
  rw [eq_ofChars_of_chars? hs, eq_ofChars_of_chars? ht]
  have happend : ofChars cs ++ ofChars ds = ofChars (cs ++ ds) := (List.map_append ..).symm
  rw [happend, chars?_ofChars]

/-- Texts that follow each other are written one after the other. -/
theorem toUtf8?_append {s t : Text} {before after : ByteArray} (hs : s.toUtf8? = some before)
    (ht : t.toUtf8? = some after) : toUtf8? (s ++ t) = some (before ++ after) := by
  obtain ⟨cs, hcs, rfl⟩ := Option.map_eq_some_iff.1 hs
  obtain ⟨ds, hds, rfl⟩ := Option.map_eq_some_iff.1 ht
  rw [toUtf8?, chars?_append hcs hds, Option.map_some, String.ofList_append]
  exact congrArg some String.toByteArray_append

/-- Reading bytes gives back the characters that were written. -/
theorem ofUtf8?_toUTF8 (cs : List Char) :
    ofUtf8? (String.ofList cs).toUTF8 = some (ofChars cs) := by
  rw [ofUtf8?, fromUTF8?_toUTF8, Option.map_some, ofString_ofList]

end AnnotatedMarkdown.Text
