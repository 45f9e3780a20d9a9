import CollectionScript.Log.Event
import CollectionScript.Text.Numeral
import CollectionScript.Text.Quoted

/-! What the command line prints on standard error: log lines, and a failure with its causes. -/
namespace CollectionScript
namespace CommandLine

def levelLabel : Level → Text
  | .warn => "WARN"
  | .debug => "DEBUG"
  | .trace => "TRACE"

/-- The part of the program that logs the event. -/
def eventTarget : Event → Text
  | .parsingScript .. => "diagscript"
  | .bindingCommand .. => "diagscript"
  | .expandedVariable .. => "diagscript::expand"
  | .boundArgument .. => "diagscript::binder"
  | .overwriting _ => "diagscript::script"

/-- Names are quoted; values and lines stand as they were rendered for the log. -/
def eventFields : Event → List (Text × Text)
  | .parsingScript lines bytes =>
    [("lines", Text.decimal lines), ("bytes", Text.decimal bytes)]
  | .bindingCommand command arguments line =>
    [("command", Text.quoted command), ("arguments", Text.decimal arguments), ("line", line)]
  | .expandedVariable name isSet value =>
    [("variable", Text.quoted name), ("set", if isSet then "true" else "false"), ("value", value)]
  | .boundArgument command parameter index =>
    [("command", Text.quoted command), ("parameter", Text.quoted parameter),
      ("index", Text.decimal index)]
  | .overwriting command => [("command", Text.quoted command)]

def logLine (event : Event) : Text :=
  levelLabel event.level ++ " " ++ eventTarget event ++ ": " ++ event.message
    ++ (eventFields event).flatMap (fun field => ' ' :: field.1 ++ '=' :: field.2) ++ ['\n']

/-- The log on the command line leaves the finest level out. -/
def logLines (events : List Event) : Text :=
  (events.filter (·.level ≠ .trace)).flatMap logLine

/-- What went wrong, and why, from the outermost cause to the innermost. -/
structure Failure where
  summary : Text
  causes : List Text

/-- A text with every line but its first moved to the right. -/
def indented (margin text : Text) : Text :=
  List.intercalate ('\n' :: margin) (text.splitOnP (· == '\n'))

/-- Several causes are numbered from zero. -/
def causeLines : Nat → List Text → Text
  | _, [] => []
  | number, cause :: causes =>
    let label := Text.decimal number
    List.replicate (5 - label.length) ' ' ++ label ++ ": " ++ indented "       " cause ++ ['\n']
      ++ causeLines (number + 1) causes

def Failure.render (failure : Failure) : Text :=
  "Error: " ++ failure.summary ++ ['\n'] ++
    match failure.causes with
    | [] => []
    | [cause] => "\nCaused by:\n    " ++ indented "    " cause ++ ['\n']
    | causes => "\nCaused by:\n" ++ causeLines 0 causes

end CommandLine
end CollectionScript
