import AnnotatedMarkdown.Journal.Channel

/-!
# Channels of stages

Whose messages get to the channel of the program.  Those of a stage do, whatever other channels
exist, unless its name starts with a point: `reachesProgram_ofStage`.

Where the search for the channels above a name finds none, it passes over the code point in front
of a point, and the name of the program is missed if that is the point behind it.
`leadsToProgram_of_getLast?_ne` follows the search through the name of a stage from its end and
says when this does not happen.
-/

namespace AnnotatedMarkdown.Channel

/-- A stage whose name does not start with a point, or no stage. -/
def IsPlainStage (stage : Option Text) : Prop :=
  ∀ name, stage = some name → name.head? ≠ some (.scalar '.')

/-- The search gets through to the point behind the name of the program: the last code point in
front of it, as read from the end, is no point that would pass it over. -/
theorem leadsToProgram_of_getLast?_ne {channels : List Text} (h : program ∈ channels) {t : Text}
    (hlast : t.getLast? ≠ some (.scalar '.')) {passesOver : Bool}
    (hpasses : passesOver = true → t ≠ []) :
    leadsToProgram channels passesOver (t ++ .scalar '.' :: program.reverse) = true := by
  induction t generalizing passesOver with
  | nil =>
    cases passesOver with
    | true => exact absurd rfl (hpasses rfl)
    | false => simp [leadsToProgram, h]
  | cons c t ih =>
    have hrest : t.getLast? ≠ some (.scalar '.') := by
      intro hpoint
      rw [List.getLast?_cons, hpoint] at hlast
      exact hlast rfl
    cases passesOver with
    | true =>
      rw [List.cons_append, leadsToProgram]
      exact ih hrest (by simp)
    | false =>
      rw [List.cons_append, leadsToProgram]
      split
      · rename_i hc
        -- A point is not the first code point of the stage, so something is left to pass over.
        have hne : t ≠ [] := by
          rintro rfl
          rw [hc] at hlast
          exact hlast rfl
        split
        · rw [ih hrest (by simp), Bool.or_true]
        · exact ih hrest fun _ => hne
      · exact ih hrest (by simp)

/-- The messages of a stage get to the channel of the program, which has to exist, unless the name
of the stage starts with a point. -/
theorem reachesProgram_ofStage {channels : List Text} (h : program ∈ channels)
    {stage : Option Text} (hplain : IsPlainStage stage) :
    reachesProgram channels (ofStage stage) = true := by
  unfold reachesProgram
  cases stage with
  | none => rfl
  | some name =>
    cases name with
    | nil => rfl
    | cons c name =>
      have hlast : (c :: name).reverse.getLast? ≠ some (.scalar '.') := by
        rw [List.getLast?_reverse]
        exact hplain _ rfl
      have hname : (ofStage (some (c :: name))).reverse =
          (c :: name).reverse ++ .scalar '.' :: program.reverse := by
        simp [ofStage, Text.concat, Text.ofString, Text.ofChars]
      rw [hname, leadsToProgram_of_getLast?_ne h hlast (by simp), Bool.or_true]

end AnnotatedMarkdown.Channel
