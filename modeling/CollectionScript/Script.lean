import CollectionScript.Declarations

/-! A script that has been read: its preambles by keyword and its actions in order. -/
namespace CollectionScript

structure Script where
  preambles : Declarations
  actions : List Command
  deriving DecidableEq

namespace Script

def empty : Script := ⟨∅, []⟩

instance : EmptyCollection Script := ⟨empty⟩

def add (script : Script) (form : Form) (command : Command) : Run Script :=
  match form.role with
  | .preamble => do
    let preambles ← script.preambles.declare form command
    pure { script with preambles }
  | .action => pure { script with actions := script.actions ++ [command] }

def toJson (script : Script) : Json :=
  .object [("preambles", script.preambles.toJson),
    ("actions", .array (script.actions.map Command.toJson))]

end Script
end CollectionScript
