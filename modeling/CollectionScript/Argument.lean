import CollectionScript.Log.Policy
import CollectionScript.Run
import CollectionScript.Variable

/-! Arguments of a command, which remember whether their text stood in the script. The value of a
variable is only ever a value: it is not split, and no reference in it is followed. -/
namespace CollectionScript

inductive Argument where
  | written (text : Text)
  | substituted (text : Text)
  deriving DecidableEq, Repr

namespace Argument

def text : Argument → Text
  | .written text => text
  | .substituted text => text

/-- A reference gives the variable's value, and nothing where the variable is not set. -/
def ofWord (lookup : Text → Run (Option Text)) (log : LogPolicy) (word : Text) : Run Argument :=
  match Variable.reference? word with
  | none => pure (.written word)
  | some name => do
    let value ← lookup name
    Run.emit (.expandedVariable name value.isSome (log.renderVariable name (value.getD [])))
    pure (.substituted (value.getD []))

def ofWords (lookup : Text → Run (Option Text)) (log : LogPolicy) : List Text → Run (List Argument)
  | [] => pure []
  | word :: words => do
    let argument ← ofWord lookup log word
    let arguments ← ofWords lookup log words
    pure (argument :: arguments)

end Argument
end CollectionScript
