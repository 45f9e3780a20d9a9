import CollectionScript.Command.Json
import CollectionScript.Form

/-! The commands declared under each keyword, in the order of declaration. -/
namespace CollectionScript

structure Declarations where
  groups : Dictionary (List Command)
  deriving DecidableEq

namespace Declarations

def empty : Declarations := ⟨∅⟩

instance : EmptyCollection Declarations := ⟨empty⟩

def get (declarations : Declarations) (keyword : Text) : List Command :=
  (declarations.groups.get? keyword).getD []

def keywords (declarations : Declarations) : List Text := declarations.groups.keys

def size (declarations : Declarations) : Nat := declarations.groups.size

def set (declarations : Declarations) (keyword : Text) (commands : List Command) : Declarations :=
  ⟨declarations.groups.insert keyword commands⟩

/-- A singleton takes the place of an earlier declaration, or is refused, as its form says. -/
def declare (declarations : Declarations) (form : Form) (command : Command) : Run Declarations :=
  let earlier := declarations.get form.keyword
  match form.cardinality with
  | .multi => pure (declarations.set form.keyword (earlier ++ [command]))
  | .singleton =>
    if earlier.isEmpty then pure (declarations.set form.keyword [command])
    else match form.redeclare with
      | .reject => Run.fail (.duplicateCommand form.keyword)
      | .overwrite => do
        Run.emit (.overwriting form.keyword)
        pure (declarations.set form.keyword [command])

def toJson (declarations : Declarations) : Json :=
  .object (declarations.groups.entries.map fun group =>
    (group.1, .array (group.2.map Command.toJson)))

theorem get_set (declarations : Declarations) (k j : Text) (commands : List Command) :
    (declarations.set k commands).get j = if j = k then commands else declarations.get j := by
  simp only [get, set, Dictionary.get?_insert]
  split <;> rfl

end Declarations
end CollectionScript
