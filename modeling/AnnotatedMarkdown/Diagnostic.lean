import AnnotatedMarkdown.Value.Display

/-!
# Diagnostics

What is reported about a text that cannot be compiled.  A `Diagnostic` names the
fault of the author and its cause; `Diagnostic.message` is its wording.  A `Defect` is
a circumstance that the compiler makes no diagnostic of.  A `Failure` is one or the
other.  The wording of a grammatical fault and of malformed metadata is left open: a
word in angle brackets stands for it.
-/

namespace AnnotatedMarkdown

/-- Why the lines of a text are out of order. -/
inductive StructuralCause where
  | separatorOutside
  | contentOutside
  | described (description : Text)
  deriving DecidableEq

/-- Why a metadata block is refused. -/
inductive MetadataCause where
  | malformed
  | notMapping (typeName : String)
  | specialField (key : Text)
  | described (description : Text)
  deriving DecidableEq

/-- Why an example is refused: it is not grammatical, or it cannot be the body of a
function. -/
inductive ExampleCause where
  | grammar (line : Nat)
  | functionBody
  | described (description : Text)
  deriving DecidableEq

/-- Why a reference or the expression of a deferred field is refused. -/
inductive ReferenceCause where
  | grammar
  | notSingle
  | described (description : Text)
  deriving DecidableEq

/-- What is reported about a text. -/
inductive Diagnostic where
  | general (arguments : List Value)
  | usage (arguments : List Value)
  | structural (cause : StructuralCause) (line : Int)
  | metadata (cause : MetadataCause) (reference : Text) (line : Option Int)
  | sample (cause : ExampleCause) (reference name : Text)
  | reference (cause : ReferenceCause) (source : Text)
  | unsupported (value : Value)

/-! ## Wording -/

/-- A text between back quotes. -/
def backQuoted (t : Text) : Text :=
  Text.concat ["\x60", t, "\x60"]

/-- The wording of a cause. -/
def StructuralCause.text : StructuralCause → Text
  | separatorOutside => "Annotation separator found without a matching entity"
  | contentOutside => "Documentation found before an entity annotation"
  | described description => description

/-- The wording of a cause. -/
def MetadataCause.text : MetadataCause → Text
  | malformed => "<yaml>"
  | notMapping typeName => Text.concat ["expected a mapping, got ", typeName]
  | specialField key =>
    Text.concat ["special field ", backQuoted (.scalar '~' :: key), " must hold an expression"]
  | described description => description

/-- The wording of a cause. -/
def ExampleCause.text : ExampleCause → Text
  | grammar line => Text.concat ["<syntax> (line ", .ofNat line, ")"]
  | functionBody => "<syntax>"
  | described description => description

/-- The wording of a cause. -/
def ReferenceCause.text : ReferenceCause → Text
  | grammar => "<syntax>"
  | notSingle => "expected a single expression"
  | described description => description

/-- The wording of free arguments: one stands for itself, several for their tuple. -/
def argumentsText : List Value → Text
  | [] => []
  | [v] => v.plain.getD []
  | vs => (Value.tuple vs).display.getD []

namespace Diagnostic

/-- The report that no input was named. -/
def missingInput : Diagnostic :=
  usage [.str "Usage: annodoc <INPUT>"]

/-- The wording of a diagnostic. -/
def message : Diagnostic → Text
  | general arguments => argumentsText arguments
  | usage arguments => argumentsText arguments
  | structural cause line => Text.concat [cause.text, " at line ", .ofInt line]
  | metadata cause target line =>
    let location := (line.map fun n => Text.concat [" (line ", .ofInt n, ")"]).getD []
    Text.concat ["Invalid metadata for ", backQuoted target, location, ": ", cause.text]
  | sample cause target name =>
    let label : Text :=
      if name.isEmpty then "unnamed example" else Text.concat ["example ", backQuoted name]
    Text.concat ["Syntax error in ", label, " of ", backQuoted target, ": ", cause.text]
  | reference cause source =>
    Text.concat ["Invalid reference ", backQuoted source, ": ", cause.text]
  | unsupported value =>
    Text.concat
      ["Type of property not supported: ", value.display.getD [], " (", value.typeName, ")"]

/-- The name of the kind of a diagnostic. -/
def kindName : Diagnostic → String
  | general _ => "AnnodocError"
  | usage _ => "UsageError"
  | structural _ _ => "StructuralError"
  | metadata _ _ _ => "MetadataParseError"
  | sample _ _ _ => "ExampleSyntaxError"
  | reference _ _ => "ReferenceSyntaxError"
  | unsupported _ => "UnsupportedValueError"

/-- The kinds that a diagnostic belongs to besides its own, in alphabetical order. -/
def widerKinds : Diagnostic → List String
  | general _ => ["BaseException", "Exception", "RuntimeError", "object"]
  | unsupported _ =>
    ["AnnodocError", "BaseException", "Exception", "RuntimeError", "TypeError", "object"]
  | _ => ["AnnodocError", "BaseException", "Exception", "RuntimeError", "object"]

/-- All kinds that a diagnostic belongs to, in alphabetical order. -/
def kinds (d : Diagnostic) : List String :=
  (d.kindName :: d.widerKinds).mergeSort

end Diagnostic

/-! ## Failures -/

/-- Circumstances that are not reported as diagnostics. -/
inductive Defect where
  | nullCharacter
  | loneSurrogate
  | tooManyDigits
  | malformedNumber
  | emptyNumber
  | oversizedNumber
  | malformedBoolean
  | malformedTimestamp
  | impossibleDate
  | hugeCodePoint
  | oversizedCodePoint
  | selfReference
  | grammarMajor
  | grammarMinor
  | definitionName
  | reservedIdentifier
  | undecodable
  | unknownHome
  | keyNotText
  | keyBytes
  | unhashableKey
  | layoutConflict
  deriving DecidableEq

/-- Why nothing is compiled. -/
inductive Failure where
  | diagnostic (d : Diagnostic)
  | defect (d : Defect)

/-- The failure for a value that no expression stands for.  A value without a text
cannot be reported. -/
def Failure.unsupported (v : Value) : Failure :=
  match v.display with
  | some _ => .diagnostic (.unsupported v)
  | none => .defect .tooManyDigits

end AnnotatedMarkdown
