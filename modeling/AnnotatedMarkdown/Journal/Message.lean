import AnnotatedMarkdown.Journal.Channel

/-!
# Messages

A message of a stage, and how it is written.
-/

namespace AnnotatedMarkdown

/-- How important a message is: a greater number stands for a greater importance. -/
structure Level where
  number : Int
  deriving DecidableEq

namespace Level

/-- The level of messages that help to find faults. -/
def debug : Level :=
  ⟨10⟩

/-- The level of messages about the progress. -/
def info : Level :=
  ⟨20⟩

/-- The level of warnings. -/
def warning : Level :=
  ⟨30⟩

/-- The level of errors. -/
def error : Level :=
  ⟨40⟩

/-- The level of errors that nothing can go on after. -/
def critical : Level :=
  ⟨50⟩

/-- The name of a level.  Levels between the others are named by their number. -/
def name (l : Level) : String :=
  match l.number with
  | 0 => "NOTSET"
  | 10 => "DEBUG"
  | 20 => "INFO"
  | 30 => "WARNING"
  | 40 => "ERROR"
  | 50 => "CRITICAL"
  | n => "Level " ++ toString n

/-- Whether a level reaches a threshold. -/
def reaches (level threshold : Level) : Bool :=
  threshold.number ≤ level.number

end Level

/-- What a stage, or the program itself, says at a time. -/
structure Message where
  time : Text
  level : Level
  stage : Option Text
  text : Text
  deriving DecidableEq

/-- How a message is written: for a console, for a file, or without anything around it. -/
inductive Layout where
  | brief
  | dated
  | bare
  deriving DecidableEq

/-- The line of a message. -/
def Layout.line : Layout → Message → Text
  | brief, m => Text.concat ["[annodoc] ", m.level.name, " ", m.text, "\n"]
  | dated, m =>
    Text.concat [m.time, " ", m.level.name, " ", Channel.ofStage m.stage, ": ", m.text, "\n"]
  | bare, m => Text.concat [m.text, "\n"]

end AnnotatedMarkdown
