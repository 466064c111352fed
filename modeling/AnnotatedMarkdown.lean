import AnnotatedMarkdown.Annotation.Entity
import AnnotatedMarkdown.Annotation.Line
import AnnotatedMarkdown.Annotation.Metadata
import AnnotatedMarkdown.Annotation.Record
import AnnotatedMarkdown.CommandLine
import AnnotatedMarkdown.CommandLine.Arguments
import AnnotatedMarkdown.Compilation
import AnnotatedMarkdown.Compilation.Notice
import AnnotatedMarkdown.Configuration
import AnnotatedMarkdown.Diagnostic
import AnnotatedMarkdown.Documentation.Example
import AnnotatedMarkdown.Documentation.Marker
import AnnotatedMarkdown.File.Path
import AnnotatedMarkdown.File.Tree
import AnnotatedMarkdown.Generation.Attachment
import AnnotatedMarkdown.Generation.Encoding
import AnnotatedMarkdown.Generation.Reference
import AnnotatedMarkdown.Inference.Definition
import AnnotatedMarkdown.Inference.Derivation
import AnnotatedMarkdown.Journal
import AnnotatedMarkdown.Journal.Channel
import AnnotatedMarkdown.Journal.Message
import AnnotatedMarkdown.Markdown.Block
import AnnotatedMarkdown.Markdown.Html
import AnnotatedMarkdown.Markdown.Line
import AnnotatedMarkdown.Markdown.LinkDefinition
import AnnotatedMarkdown.Markdown.Shape
import AnnotatedMarkdown.Number.Binary64
import AnnotatedMarkdown.Number.Shortest
import AnnotatedMarkdown.Proofs.Annotation.Conversion
import AnnotatedMarkdown.Proofs.Annotation.FieldName
import AnnotatedMarkdown.Proofs.Annotation.Line
import AnnotatedMarkdown.Proofs.Annotation.LineBreak
import AnnotatedMarkdown.Proofs.Annotation.LineFeed
import AnnotatedMarkdown.Proofs.Annotation.LongInteger
import AnnotatedMarkdown.Proofs.Annotation.Rawness
import AnnotatedMarkdown.Proofs.Annotation.Reduction
import AnnotatedMarkdown.Proofs.Annotation.Segmentation
import AnnotatedMarkdown.Proofs.CommandLine
import AnnotatedMarkdown.Proofs.Compilation.Configuration
import AnnotatedMarkdown.Proofs.Compilation.ExampleFunctions
import AnnotatedMarkdown.Proofs.Compilation.Failure
import AnnotatedMarkdown.Proofs.Compilation.File
import AnnotatedMarkdown.Proofs.Compilation.Independence
import AnnotatedMarkdown.Proofs.Configuration
import AnnotatedMarkdown.Proofs.Documentation.Chapter
import AnnotatedMarkdown.Proofs.Documentation.Marker
import AnnotatedMarkdown.Proofs.Documentation.Rewriting
import AnnotatedMarkdown.Proofs.Documentation.Section
import AnnotatedMarkdown.Proofs.File.Agreement
import AnnotatedMarkdown.Proofs.File.Tree
import AnnotatedMarkdown.Proofs.Generation.Leaves
import AnnotatedMarkdown.Proofs.Generation.Literal
import AnnotatedMarkdown.Proofs.Generation.Reference
import AnnotatedMarkdown.Proofs.Generation.Tags
import AnnotatedMarkdown.Proofs.Inference.Derivation
import AnnotatedMarkdown.Proofs.Inference.FunctionName
import AnnotatedMarkdown.Proofs.Inference.History
import AnnotatedMarkdown.Proofs.Journal
import AnnotatedMarkdown.Proofs.Journal.Channel
import AnnotatedMarkdown.Proofs.Journal.Run
import AnnotatedMarkdown.Proofs.Markdown.Block
import AnnotatedMarkdown.Proofs.Markdown.Line
import AnnotatedMarkdown.Proofs.Markdown.Reading
import AnnotatedMarkdown.Proofs.Number.Decimal
import AnnotatedMarkdown.Proofs.Number.Digits
import AnnotatedMarkdown.Proofs.Number.Rounding
import AnnotatedMarkdown.Proofs.Number.Shortest
import AnnotatedMarkdown.Proofs.Outcome
import AnnotatedMarkdown.Proofs.Python.Continuation
import AnnotatedMarkdown.Proofs.Python.Display
import AnnotatedMarkdown.Proofs.Python.DisplayText
import AnnotatedMarkdown.Proofs.Python.ExpressionText
import AnnotatedMarkdown.Proofs.Python.FloatLiteral
import AnnotatedMarkdown.Proofs.Python.Lexing
import AnnotatedMarkdown.Proofs.Python.Line.Basic
import AnnotatedMarkdown.Proofs.Python.Line.Expression
import AnnotatedMarkdown.Proofs.Python.Line.Pattern
import AnnotatedMarkdown.Proofs.Python.Line.Statement
import AnnotatedMarkdown.Proofs.Python.NumberLiteral
import AnnotatedMarkdown.Proofs.Python.Parsing
import AnnotatedMarkdown.Proofs.Python.Refusal
import AnnotatedMarkdown.Proofs.Python.Rendition
import AnnotatedMarkdown.Proofs.Python.Results
import AnnotatedMarkdown.Proofs.Python.Scanning
import AnnotatedMarkdown.Proofs.Python.Separation
import AnnotatedMarkdown.Proofs.Python.SingleLine
import AnnotatedMarkdown.Proofs.Python.SoleStatement
import AnnotatedMarkdown.Proofs.Python.StringLiteral
import AnnotatedMarkdown.Proofs.Python.Version.Basic
import AnnotatedMarkdown.Proofs.Python.Version.Expression
import AnnotatedMarkdown.Proofs.Python.Version.Statement
import AnnotatedMarkdown.Proofs.Store.Attachment
import AnnotatedMarkdown.Proofs.Store.Run
import AnnotatedMarkdown.Proofs.Text.Pattern
import AnnotatedMarkdown.Proofs.Text.Trimming
import AnnotatedMarkdown.Proofs.Unicode.Normalization
import AnnotatedMarkdown.Proofs.Value.Containment
import AnnotatedMarkdown.Proofs.Value.Entries
import AnnotatedMarkdown.Proofs.Yaml.Defect
import AnnotatedMarkdown.Python.Body
import AnnotatedMarkdown.Python.Body.Expression
import AnnotatedMarkdown.Python.Body.Occurrence
import AnnotatedMarkdown.Python.Body.Pattern
import AnnotatedMarkdown.Python.Body.Scope
import AnnotatedMarkdown.Python.Body.Statement
import AnnotatedMarkdown.Python.FaultLine
import AnnotatedMarkdown.Python.FormatString
import AnnotatedMarkdown.Python.Lexer
import AnnotatedMarkdown.Python.Literal
import AnnotatedMarkdown.Python.Parser
import AnnotatedMarkdown.Python.Parser.Basic
import AnnotatedMarkdown.Python.Parser.Expression
import AnnotatedMarkdown.Python.Parser.Pattern
import AnnotatedMarkdown.Python.Parser.Statement
import AnnotatedMarkdown.Python.Precedence
import AnnotatedMarkdown.Python.Printer
import AnnotatedMarkdown.Python.Printer.Expression
import AnnotatedMarkdown.Python.Printer.StringLiteral
import AnnotatedMarkdown.Python.Quoted
import AnnotatedMarkdown.Python.Recognition.Expression
import AnnotatedMarkdown.Python.Recognition.Literal
import AnnotatedMarkdown.Python.Recognition.Node
import AnnotatedMarkdown.Python.Recognition.Parameter
import AnnotatedMarkdown.Python.Recognition.Pattern
import AnnotatedMarkdown.Python.Recognition.Recognizer
import AnnotatedMarkdown.Python.Recognition.Rule
import AnnotatedMarkdown.Python.Recognition.Statement
import AnnotatedMarkdown.Python.Syntax
import AnnotatedMarkdown.Python.Token
import AnnotatedMarkdown.Store.Metadata
import AnnotatedMarkdown.Store.Shape
import AnnotatedMarkdown.Text.Base64
import AnnotatedMarkdown.Text.Blank
import AnnotatedMarkdown.Text.CodePoint
import AnnotatedMarkdown.Text.Pattern
import AnnotatedMarkdown.Text.Utf8
import AnnotatedMarkdown.Unicode.Character
import AnnotatedMarkdown.Unicode.DigitTable
import AnnotatedMarkdown.Unicode.IdentifierTable
import AnnotatedMarkdown.Unicode.Normalization
import AnnotatedMarkdown.Unicode.NormalizationTable
import AnnotatedMarkdown.Unicode.PrintableTable
import AnnotatedMarkdown.Unicode.Table
import AnnotatedMarkdown.Value.Basic
import AnnotatedMarkdown.Value.Calendar
import AnnotatedMarkdown.Value.Display
import AnnotatedMarkdown.Value.Field
import AnnotatedMarkdown.Yaml.Constant
import AnnotatedMarkdown.Yaml.Cursor
import AnnotatedMarkdown.Yaml.Document
import AnnotatedMarkdown.Yaml.Lexer
import AnnotatedMarkdown.Yaml.Node
import AnnotatedMarkdown.Yaml.Scalar
import AnnotatedMarkdown.Yaml.Tag
import AnnotatedMarkdown.Yaml.Token
