import AnnotatedMarkdown.Python.Quoted
import AnnotatedMarkdown.Unicode.Character

/-!
# Arguments of the command

The command takes one operand and options in any order.  An option has a short or a long
name; a long name may be cut short as long as it stays the start of one name only, and its
value may follow an equals sign.  Short options without a value may be joined.  After two
hyphens, every argument is an operand.
-/

namespace AnnotatedMarkdown.CommandLine

/-- The options. -/
inductive Switch where
  | help
  | output
  | config
  | verbose
  | quiet
  | logFile
  deriving DecidableEq

/-- The names of the options. -/
def switchNames : List (String × Switch) :=
  [("-h", .help), ("--help", .help), ("-o", .output), ("--output", .output), ("--config", .config),
    ("-v", .verbose), ("--verbose", .verbose), ("-q", .quiet), ("--quiet", .quiet),
    ("--log-file", .logFile)]

/-- The option with a name. -/
def switchNamed? (name : Text) : Option Switch :=
  (switchNames.find? fun s => Text.ofString s.1 == name).map Prod.snd

/-- All names of an option. -/
def Switch.names (s : Switch) : Text :=
  Text.join "/" ((switchNames.filter fun n => n.2 = s).map fun n => Text.ofString n.1)

/-- Whether an option has a value. -/
def Switch.takesValue : Switch → Bool
  | output => true
  | config => true
  | logFile => true
  | _ => false

/-- An argument: an operand, the mark before operands, or an option with its name and what
is joined to it.  An option that has such a name only in part, or not at all, is
unknown. -/
inductive Argument where
  | operand (t : Text)
  | separator
  | switch (s : Switch) (isLong : Bool) (joined : Option Text)
  | unknown (t : Text)

/-! ## Single arguments -/

/-- Whether a code point is an equals sign. -/
def isEquals (c : CodePoint) : Bool :=
  c == .scalar '='

/-- A name, and the value after an equals sign. -/
def splitValue (t : Text) : Text × Option Text :=
  let name := t.takeWhile fun c => !isEquals c
  (name, if t.any isEquals then some (t.drop (name.length + 1)) else none)

/-- Whether a code point is a decimal digit. -/
def isDigit (c : CodePoint) : Bool :=
  (c.char?.bind Unicode.digitValue?).isSome

/-- Whether a text after a hyphen is a number, which is no option. -/
def isNumber (t : Text) : Bool :=
  let t := if t.getLast? == some (.scalar '\n') then t.dropLast else t
  match t.dropWhile isDigit with
  | [] => !t.isEmpty
  | .scalar '.' :: rest => !rest.isEmpty && rest.all isDigit
  | _ => false

/-- The options that a long name, which may be cut short, stands for. -/
def longMatches (name : Text) : List (String × Switch) :=
  switchNames.filter fun s => (Text.after? name (.ofString s.1)).isSome

/-- An argument that starts with a hyphen but is no option. -/
def unmatched (t : Text) : Argument :=
  if isNumber t.tail || t.contains (.scalar ' ') then .operand t else .unknown t

/-- Reads one argument.  A name that is cut too short is refused with a report. -/
def Argument.ofText (t : Text) : Except Text Argument :=
  match t with
  | .scalar '-' :: _ :: rest =>
    let isLong := (Text.after? "--" t).isSome
    let (name, value) := splitValue t
    match switchNamed? t, switchNamed? name with
    | some s, _ => .ok (.switch s isLong none)
    | none, some s => .ok (.switch s isLong value)
    | none, none =>
      if isLong then
        match longMatches name with
        | [] => .ok (unmatched t)
        | [(_, s)] => .ok (.switch s true value)
        | several =>
          let names := several.map fun s => Text.ofString s.1
          .error (Text.concat ["ambiguous option: ", t, " could match ", Text.join ", " names])
      else
        match switchNamed? (t.take 2) with
        | some s => .ok (.switch s false (some rest))
        | none => .ok (unmatched t)
  | _ => .ok (.operand t)

/-- Reads arguments. -/
def Argument.ofTexts : List Text → Except Text (List Argument)
  | [] => .ok []
  | t :: ts =>
    if t = "--" then .ok (.separator :: ts.map .operand)
    else do
      let a ← Argument.ofText t
      return a :: (← Argument.ofTexts ts)

/-- The text of an argument that is an operand or the mark before operands. -/
def Argument.text : Argument → Text
  | operand t => t
  | separator => "--"
  | switch _ _ _ => []
  | unknown t => t

/-! ## All arguments -/

/-- What the arguments ask for. -/
structure Request where
  input : Option Text
  output : Option Text
  config : Option Text
  verbose : Bool
  quiet : Bool
  logFile : Option Text
  deriving DecidableEq

/-- What is asked for without arguments. -/
def Request.empty : Request :=
  ⟨none, none, none, false, false, none⟩

/-- The report that an option is not well used. -/
def misuse (s : Switch) (what : Text) : Text :=
  Text.concat ["argument ", s.names, ": ", what]

/-- The report that something is joined to an option without a value. -/
def ignoredValue (s : Switch) (joined : Text) : Text :=
  misuse s (Text.concat ["ignored explicit argument ", Python.quoted joined])

/-- The options in a group of short ones, and the value of the last one if it is joined. -/
def shortGroup (s : Switch) : (joined : Text) → Except Text (List Switch × Option Text)
  | [] => if s.takesValue then .ok ([s], some []) else .error (ignoredValue s [])
  | c :: cs =>
    if s.takesValue then .ok ([s], some (c :: cs))
    else
      match switchNamed? [.scalar '-', c] with
      | none => .error (ignoredValue s (c :: cs))
      | some next =>
        if cs.isEmpty then .ok ([s, next], none)
        else (shortGroup next cs).map fun (others, value) => (s :: others, value)

/-- The options that an argument stands for, and the value of the last one if it is
joined. -/
def switchGroup (s : Switch) (isLong : Bool) (joined : Option Text) :
    Except Text (List Switch × Option Text) :=
  match joined with
  | none => .ok ([s], none)
  | some t =>
    if isLong then if s.takesValue then .ok ([s], some t) else .error (ignoredValue s t)
    else shortGroup s t

/-- Sets the value of an option. -/
def Request.set (r : Request) (s : Switch) (value : Text) : Request :=
  match s with
  | .output => { r with output := some value }
  | .config => { r with config := some value }
  | .logFile => { r with logFile := some value }
  | .verbose => { r with verbose := true }
  | .quiet => { r with quiet := true }
  | .help => r

/-- Sets several options, the last of which may have a value. -/
def Request.setAll (r : Request) (ss : List Switch) (value : Text) : Request :=
  ss.foldl (fun r s => r.set s value) r

/-- What has been read: the request, whether the operand has been taken, and arguments
that have no meaning. -/
structure Progress where
  request : Request
  isTaken : Bool
  extras : List Text

/-- The end of reading: a report, the wish for help, or a request. -/
inductive Reading where
  | refused (report : Text)
  | help
  | request (r : Request)

/-- Whether options follow among arguments. -/
def hasSwitch (as : List Argument) : Bool :=
  as.any fun
    | .switch _ _ _ => true
    | .unknown _ => true
    | _ => false

/-- The end of reading when arguments without a meaning are left. -/
def Progress.finish (p : Progress) (left : List Argument) : Reading :=
  let extras := p.extras ++ left.map Argument.text
  if extras.isEmpty then .request p.request
  else .refused (Text.concat ["unrecognized arguments: ", Text.join " " extras])

/-- Takes the operand. -/
def Progress.take (p : Progress) (t : Text) : Progress :=
  { p with request := { p.request with input := some t }, isTaken := true }

/-- Reads arguments without options: the operand, and the mark next to it. -/
def Progress.readOperands (p : Progress) (as : List Argument) : Reading :=
  if p.isTaken then p.finish as
  else
    match as with
    | .separator :: .operand t :: rest => (p.take t).finish rest
    | .separator :: rest => p.finish rest
    | .operand t :: .separator :: rest => (p.take t).finish rest
    | .operand t :: rest => (p.take t).finish rest
    | rest => p.finish rest

/-- Sets options, one of which may be the wish for help. -/
def Progress.apply (p : Progress) (ss : List Switch) (value : Text) (next : Progress → Reading) :
    Reading :=
  if ss.contains .help then .help
  else next { p with request := p.request.setAll ss value }

/-- Reads arguments. -/
def Progress.read (p : Progress) (as : List Argument) : Reading :=
  if hasSwitch as then
    match as with
    | [] => p.finish []
    | .unknown t :: rest => { p with extras := p.extras ++ [t] }.read rest
    | .switch s isLong joined :: rest =>
      match switchGroup s isLong joined with
      | .error report => .refused report
      | .ok (ss, some value) => p.apply ss value (·.read rest)
      | .ok (ss, none) =>
        let last := ss.getLast?.getD s
        if last.takesValue then
          match rest with
          | .operand value :: rest => p.apply ss value (·.read rest)
          | _ => .refused (misuse last "expected one argument")
        else p.apply ss [] (·.read rest)
    | a :: rest =>
      if p.isTaken then { p with extras := p.extras ++ [a.text] }.read rest
      else (p.take a.text).read rest
  else p.readOperands as
termination_by as.length

/-- Reads the arguments of the command. -/
def Reading.ofTexts (ts : List Text) : Reading :=
  match Argument.ofTexts ts with
  | .error report => .refused report
  | .ok as => Progress.read ⟨.empty, false, []⟩ as

end AnnotatedMarkdown.CommandLine
