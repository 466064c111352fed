import AnnotatedMarkdown.Python.Parser
import AnnotatedMarkdown.Python.Recognition.Recognizer

/-!
# The line of a grammatical fault

`faultLine` gives the line to which an ungrammatical module is reported.
-/

namespace AnnotatedMarkdown.Python

open Recognition

/-- The line of the fault in the source of a module; none if it is grammatical. -/
def faultLine? (version : Nat) (source : List Char) : Option Nat :=
  faultLineOf? version (asyncReservedSince version) (source.length + 1) (.statement .file) 1
    source

/-- The line to which an ungrammatical module is reported. -/
def faultLine (version : Nat) (source : List Char) : Nat :=
  (faultLine? version source).getD 1

end AnnotatedMarkdown.Python
