import AnnotatedMarkdown.Compilation.Notice
import AnnotatedMarkdown.File.Tree
import AnnotatedMarkdown.Text.Utf8

/-!
# Journals

A journal takes messages to handlers, which show them on a console or add them to a file.
Which handlers see a message depends on its level and on the channel that it is said on.
Each configuration takes the place of the one before it: it replaces the handlers of the
program, of which one is for the console and, if it is told so, one for a file that gets
every message.
-/

namespace AnnotatedMarkdown

open File

/-- Which messages are shown, and which file they are added to. -/
structure JournalOptions where
  verbose : Bool
  quiet : Bool
  file : Option Path

/-- The least level that the console shows: being quiet prevails over being verbose. -/
def JournalOptions.consoleLevel (o : JournalOptions) : Level :=
  if o.quiet then .warning else if o.verbose then .debug else .info

/-- The least level that the program takes: for a file every message counts. -/
def JournalOptions.threshold (o : JournalOptions) : Level :=
  if o.file.isSome then .debug else o.consoleLevel

/-- Where a handler puts messages. -/
inductive Outlet where
  | console
  | file (place : Place)
  deriving DecidableEq

/-- A handler: the least level that it handles, how it writes a message, and where. -/
structure Handler where
  level : Level
  layout : Layout
  outlet : Outlet
  deriving DecidableEq

/-- A journal: the threshold of the program's channel if it has been set, whether this channel
passes its messages on to the handlers outside the program, its own handlers, and the ones
outside; then the channels that exist, and what is remembered about the levels that they take;
at last what has been shown so far, and the files. -/
structure Journal where
  threshold : Option Level
  passesOn : Bool
  handlers : List Handler
  outer : List Handler
  channels : List Text
  verdicts : List ((Text × Level) × Bool)
  shown : Text
  files : Tree

namespace Journal

/-- The journal before any configuration. -/
def start (files : Tree) : Journal :=
  ⟨none, true, [], [], [], [], [], files⟩

/-! ## Channels -/

/-- A channel exists from its first use on. -/
def opened (j : Journal) (name : Text) : Journal :=
  if j.channels.contains name then j else { j with channels := name :: j.channels }

/-- The least level that a channel takes. -/
def channelLevel (j : Journal) (name : Text) : Level :=
  if Channel.reachesProgram j.channels name then j.threshold.getD .warning else .warning

/-- Whether a channel takes messages of a level.  What is remembered counts, even if the channels
are no longer the same. -/
def takes (j : Journal) (name : Text) (level : Level) : Bool :=
  (j.verdicts.lookup (name, level)).getD (level.reaches (j.channelLevel name))

/-- Remembers whether a channel takes messages of a level. -/
def remembering (j : Journal) (name : Text) (level : Level) : Journal :=
  { j with verdicts := ((name, level), j.takes name level) :: j.verdicts }

/-! ## Handlers -/

/-- The handler for messages that there is no handler for. -/
def lastResort : Handler :=
  ⟨.warning, .bare, .console⟩

/-- The handlers that the messages on a channel get to. -/
def handlersFor (j : Journal) (name : Text) : List Handler :=
  let handlers :=
    if Channel.reachesProgram j.channels name then
      j.handlers ++ if j.passesOn then j.outer else []
    else j.outer
  if handlers.isEmpty then [lastResort] else handlers

/-- Handles a message.  A file does not get a line that cannot be written in UTF-8. -/
def handle (j : Journal) (m : Message) (h : Handler) : Journal :=
  if m.level.reaches h.level then
    match h.outlet with
    | .console => { j with shown := j.shown ++ h.layout.line m }
    | .file place =>
      match (h.layout.line m).toUtf8? with
      | some bytes => { j with files := j.files.append place bytes }
      | none => j
  else j

/-- Adds a handler. -/
def attached (j : Journal) (h : Handler) : Journal :=
  { j with handlers := j.handlers ++ [h] }

/-- Takes a handler away. -/
def detached (j : Journal) (h : Handler) : Journal :=
  { j with handlers := j.handlers.erase h }

/-! ## Configurations and messages -/

/-- The journal with a configuration.  If the file cannot be opened, the messages are shown on the
console only. -/
def configure (j : Journal) (o : JournalOptions) : Journal × Option AccessFault :=
  let j := j.opened Channel.program
  let j := { j with threshold := some o.threshold, passesOn := false, verdicts := [] }
  let j := j.handlers.foldl detached j
  let j := j.attached ⟨o.consoleLevel, .brief, .console⟩
  match o.file with
  | none => (j, none)
  | some p =>
    match j.files.openForAdditions (Tree.absolute (j.files.spelled p)) with
    | .ok (place, files) =>
      (attached { j with files := files } ⟨.debug, .dated, .file place⟩, none)
    | .error f => (j, some f)

/-- Takes a message. -/
def take (j : Journal) (m : Message) : Journal :=
  let name := Channel.ofStage m.stage
  let j := (j.opened name).remembering name m.level
  if j.takes name m.level then (j.handlersFor name).foldl (fun j h => j.handle m h) j else j

/-- Takes a message of a stage. -/
def log (j : Journal) (time : Text) (level : Level) (stage : Option Text) (message : Text) :
    Journal :=
  j.take ⟨time, level, stage, message⟩

/-- Takes a notice. -/
def note (j : Journal) (time : Text) (n : Notice) : Journal :=
  j.log time n.level (some n.stage) n.text

/-- Takes several notices. -/
def noteAll (j : Journal) (time : Text) (ns : List Notice) : Journal :=
  ns.foldl (fun j n => j.note time n) j

end Journal

end AnnotatedMarkdown
