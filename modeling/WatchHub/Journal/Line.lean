/-!
# Journal lines

One line of the journal: a level, a message and named fields, written on one line of text.
-/

namespace WatchHub

/-- How much a line matters. -/
inductive Level where
  | trace
  | debug
  | info
  | warn
  | error
deriving DecidableEq, Inhabited, Repr

namespace Level

/-- The name in front of a line. -/
def text : Level → String
  | trace => "TRACE"
  | debug => "DEBUG"
  | info => "INFO"
  | warn => "WARN"
  | error => "ERROR"

end Level

/-- One line of the journal. -/
structure Line where
  level : Level
  message : String
  fields : List (String × String)
deriving DecidableEq, Inhabited, Repr

namespace Line

/-- The line as text: the level, the message, and each field behind a blank. -/
def text (l : Line) : String :=
  String.join (l.level.text :: " " :: l.message
    :: l.fields.map fun f => " " ++ f.1 ++ "=" ++ f.2)

end Line

end WatchHub
