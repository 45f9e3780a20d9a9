import CollectionScript.Text

/-! What reading a script logs. -/
namespace CollectionScript

inductive Event where
  | parsingScript (lines bytes : Nat)
  | bindingCommand (command : Text) (arguments : Nat) (line : Text)
  | expandedVariable (name : Text) (isSet : Bool) (value : Text)
  /-- The index counts the arguments of the line from one. -/
  | boundArgument (command parameter : Text) (index : Nat)
  | overwriting (command : Text)
  deriving DecidableEq, Repr

inductive Level where
  | warn | debug | trace
  deriving DecidableEq, Repr

namespace Event

def level : Event → Level
  | .overwriting _ => .warn
  | .boundArgument .. => .trace
  | _ => .debug

def message : Event → Text
  | .parsingScript .. => "parsing script"
  | .bindingCommand .. => "binding command"
  | .expandedVariable .. => "expanded variable"
  | .boundArgument .. => "bound argument"
  | .overwriting _ => "overwriting earlier declaration"

end Event
end CollectionScript
