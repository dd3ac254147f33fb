import ErrorCatalog.Params

/-!
# Message templates

A template makes the message of a report: a fixed text, or a function of the
parameters of one mode.
-/

namespace ErrorCatalog

/-- Templates for messages. -/
inductive Template where
  /-- A message without parameters. -/
  | fixed (text : String)
  /-- A function of positional parameters. -/
  | positional (write : List Value → String)
  /-- A function of named parameters. -/
  | named (write : Register Value → String)

namespace Template

/-- The mode of the parameters that a template requires; a fixed text requires none. -/
def mode? : Template → Option CaptureMode
  | .fixed _ => none
  | .positional _ => some .positional
  | .named _ => some .named

/-- The message for some parameters. A function sees no parameters of the other mode. -/
def render : Template → Params → String
  | .fixed text, _ => text
  | .positional write, .positional values => write values
  | .named write, .named values => write values
  | .positional write, .named _ => write []
  | .named write, .positional _ => write Register.empty

end Template

end ErrorCatalog
