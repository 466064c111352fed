import AnnotatedMarkdown.Documentation.Marker

/-!
# Examples

The blocks of a documentation text hold examples: a code block directly after a heading
or a paragraph that ends in a marker belongs to the example of its section.  `Scan.step`
takes one block, and `Example.ofBlocks` collects the examples of all blocks.
-/

namespace AnnotatedMarkdown.Documentation

/-- A top-level block of a documentation text.  Blocks other than headings, paragraphs
and code are told apart by a name only. -/
inductive Block where
  | heading (text : Text)
  | paragraph (text : Text)
  | code (text : Text)
  | other (kind : Text)
  deriving DecidableEq

/-- An example: its name, its source, and whether it was found in documentation. -/
structure Example where
  name : Option Text
  source : Text
  inferred : Bool
  deriving DecidableEq

/-- The example of the code fragments under a heading. -/
def Example.found (heading : Option Text) (source : Text) : Example :=
  ⟨some (exampleName heading), source, true⟩

/-! ## Joining fragments -/

/-- The fragments of a section that a heading closes, with a blank line between them. -/
def joinBlocks (fragments : List Text) : Text :=
  Text.join "\n\n" fragments

/-- Whether a code point is a semicolon. -/
def isSemicolon (c : CodePoint) : Bool :=
  c == .scalar ';'

/-- A fragment without the semicolons at its end. -/
def withoutSemicolons (fragment : Text) : Text :=
  (fragment.trimEnd.trimEndBy isSemicolon).trimEnd

/-- The fragments of the last section, with a semicolon and a line break between them. -/
def joinStatements (fragments : List Text) : Text :=
  Text.join ";\n" (fragments.map withoutSemicolons)

/-! ## Scanning -/

/-- The state between two blocks: the examples of closed sections, the fragments and the
heading of the open one, and whether code would be an example now. -/
structure Scan where
  examples : List Example
  code : List Text
  heading : Option Text
  pending : Bool
  deriving DecidableEq

namespace Scan

/-- The state before the first block. -/
def start : Scan :=
  ⟨[], [], none, false⟩

/-- The examples of closed sections and the one that the open section makes, for a
given way to join fragments. -/
def close (s : Scan) (join : List Text → Text) : List Example :=
  if s.code.isEmpty then s.examples else s.examples ++ [.found s.heading (join s.code)]

/-- Takes one block. -/
def step (s : Scan) : Block → Scan
  | .heading text => ⟨s.close joinBlocks, [], some text, isLead text⟩
  | .paragraph text => { s with pending := isLead text }
  | .code text =>
    let fragment := text.trimEnd
    { s with
      code := if s.pending && !fragment.isEmpty then s.code ++ [fragment] else s.code
      pending := false }
  | .other _ => { s with pending := false }

/-- The states after each of several blocks. -/
def trace (s : Scan) : List Block → List Scan
  | [] => []
  | block :: blocks => s.step block :: (s.step block).trace blocks

end Scan

/-- The examples of a sequence of blocks. -/
def Example.ofBlocks (blocks : List Block) : List Example :=
  (blocks.foldl Scan.step .start).close joinStatements

end AnnotatedMarkdown.Documentation
