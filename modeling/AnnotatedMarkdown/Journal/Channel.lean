import AnnotatedMarkdown.Text.CodePoint

/-!
# Channels

The program has a channel for its messages, and so has each of its stages.  The name of a
channel is made of parts with points between them, and what stands in front of a point may be
the name of another channel, which is above the first one.  A channel passes its messages on
to the nearest channel above it.
-/

namespace AnnotatedMarkdown.Channel

/-- The channel of the program. -/
def program : Text :=
  "annodoc"

/-- The channel of a stage. -/
def ofStage (stage : Option Text) : Text :=
  match stage with
  | none => program
  | some s => if s.isEmpty then program else Text.concat [program, ".", s]

/-- Whether messages get from a name to the channel of the program if certain channels exist.
The name is read from its end, and what is in front of a point is looked for among the channels.
If there is one of this name, its own name is read on in the same way; if there is none, the
code point in front of the point is passed over. -/
def leadsToProgram (channels : List Text) : (passesOver : Bool) → Text → Bool
  | _, [] => false
  | true, _ :: rest => leadsToProgram channels false rest
  | false, c :: rest =>
    if c = .scalar '.' then
      if channels.contains rest.reverse then
        rest.reverse == program || leadsToProgram channels false rest
      else leadsToProgram channels true rest
    else leadsToProgram channels false rest

/-- Whether a channel is the channel of the program, or passes its messages on to it. -/
def reachesProgram (channels : List Text) (name : Text) : Bool :=
  name == program || leadsToProgram channels false name.reverse

end AnnotatedMarkdown.Channel
