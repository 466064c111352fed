import AnnotatedMarkdown.CommandLine.Arguments
import AnnotatedMarkdown.Configuration
import AnnotatedMarkdown.Journal

/-!
# The command

`run` is the command on a file tree: it reads the arguments, compiles the input, and shows
the generated module or writes it to a file.  Whatever keeps the module from being
generated leaves the files as they were, except for the journal.
-/

namespace AnnotatedMarkdown.CommandLine

open File

/-- How to use the command. -/
def usage : Text :=
  Text.join "\n"
    ["usage: annodoc [-h] [-o OUTPUT] [--config CONFIG] [-v] [-q]",
      "               [--log-file LOG_FILE]",
      "               [input]",
      ""]

/-- What the command and its options do. -/
def help : Text :=
  usage ++ Text.join "\n"
    ["",
      "Compile annotated Markdown into a Python module that attaches documentation",
      "metadata.",
      "",
      "positional arguments:",
      "  input                 Annotation markdown file to compile.",
      "",
      "options:",
      "  -h, --help            show this help message and exit",
      "  -o OUTPUT, --output OUTPUT",
      "                        Write the generated module to this file instead of",
      "                        stdout.",
      "  --config CONFIG       Path to .annodoc.yml (defaults to the one next to",
      "                        INPUT).",
      "  -v, --verbose         Increase log verbosity for troubleshooting.",
      "  -q, --quiet           Only log warnings and errors.",
      "  --log-file LOG_FILE   Also write debug logs to this file.",
      ""]

/-- How the command ends: with a status, or with a fault that it does not report. -/
inductive Ending where
  | status (n : Nat)
  | fault (f : CommandFault)

/-- What the command leaves: its end, what it showed and reported, and the files. -/
structure Outcome where
  ending : Ending
  shown : Text
  reported : Text
  files : Tree

/-- A line that names the command. -/
def commandLine (message : Text) : Text :=
  Text.concat ["annodoc: ", message, "\n"]

/-- The report of a wrong use of the command. -/
def misuseReport (message : Text) : Text :=
  usage ++ commandLine (Text.concat ["error: ", message])

/-- The end of a run that nothing was generated in. -/
def failed (j : Journal) (f : CommandFault) : Outcome :=
  match f with
  | .failure (.diagnostic (.usage arguments)) =>
    ⟨.status 2, [], j.shown ++ misuseReport (Diagnostic.usage arguments).message, j.files⟩
  | .failure (.diagnostic d) => ⟨.status 1, [], j.shown ++ commandLine d.message, j.files⟩
  | .configuration c => ⟨.status 1, [], j.shown ++ commandLine c.message, j.files⟩
  | .access ⟨.missing, path⟩ =>
    ⟨.status 1, [], j.shown ++ commandLine (AccessFault.message ⟨.missing, path⟩), j.files⟩
  | f => ⟨.fault f, [], j.shown, j.files⟩

/-- The end of a run with a fault that is not reported. -/
def escaped (j : Journal) (files : Tree) (f : CommandFault) : Outcome :=
  ⟨.fault f, [], j.shown, files⟩

/-- Writes the generated module to a file, and the directories on the way to it. -/
def writeModule (j : Journal) (time generated : Text) (output : Path) : Outcome :=
  match j.files.makeParent output with
  | .error f => escaped j j.files (.access f)
  | .ok files =>
    match files.write output ((generated.toUtf8?).getD .empty) with
    | .error f => escaped j files (.access f)
    | .ok files =>
      if generated.toUtf8?.isNone then escaped j files (.defect .loneSurrogate)
      else
        let j := { j with files := files }.note time (.written output.text)
        ⟨.status 0, [], j.shown, j.files⟩

/-- Shows or writes the generated module. -/
def deliver (j : Journal) (time generated : Text) (output : Option Path) : Outcome :=
  match output with
  | none => ⟨.status 0, generated, j.shown, j.files⟩
  | some output => writeModule j time generated output

/-- Compiles a file with a configuration. -/
def compileWith (j : Journal) (time : Text) (c : Configuration) (input : Path)
    (output : Option Path) : Outcome :=
  let j := j.note time (.compiling input.text)
  match Configuration.readText j.files input with
  | .error f => failed j f
  | .ok source =>
    let j := j.noteAll time (notices c.options source)
    match compile c.options source with
    | .error f => failed j (.failure f)
    | .ok generated => deliver j time generated output

/-- Does what the arguments ask for. -/
def execute (files : Tree) (time : Text) (r : Request) : Outcome :=
  let (j, fault) :=
    (Journal.start files).configure ⟨r.verbose, r.quiet, r.logFile.map Path.ofText⟩
  match fault with
  | some f => escaped j j.files (.access f)
  | none =>
    match r.input with
    | none | some [] => failed j (.failure (.diagnostic .missingInput))
    | some input =>
      let input := Path.ofText input
      match Configuration.load j.files ((r.config.map Path.ofText).getD input) with
      | .error f => failed j f
      | .ok c => compileWith j time c input (r.output.map Path.ofText)

/-- Runs the command.  Entries of the journal's file carry a time. -/
def run (files : Tree) (time : Text) (arguments : List Text) : Outcome :=
  match Reading.ofTexts arguments with
  | .refused report => ⟨.status 2, [], misuseReport report, files⟩
  | .help => ⟨.status 0, help, [], files⟩
  | .request r => execute files time r

end AnnotatedMarkdown.CommandLine
