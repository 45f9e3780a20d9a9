import CollectionScript.Argument
import CollectionScript.Dictionary
import CollectionScript.Schema

/-! Arguments bound to the parameters of a schema. An argument `name:value` goes to the parameter of that
name, any other to the default parameter, and no parameter takes two. -/
namespace CollectionScript

/-- The values of a command's parameters. -/
structure Bindings where
  command : Text
  values : Dictionary Text
  deriving DecidableEq

namespace Bindings

def get? (bindings : Bindings) (parameter : Text) : Option Text := bindings.values.get? parameter

/-- The value of a parameter that must be there. -/
def require (bindings : Bindings) (parameter : Text) : Except Error Text :=
  match bindings.get? parameter with
  | some value => .ok value
  | none => .error (.missingArgument bindings.command parameter)

end Bindings

namespace Schema

/-- The declared name before the first colon of a written argument, and the value after it. -/
def named? (schema : Schema) : Argument → Option (Parameter × Text)
  | .written text =>
    match Text.cut? ':' text with
    | some (name, value) => (schema.find? name).map fun p => (p, value)
    | none => none
  | .substituted _ => none

/-- The parameter that an argument goes to, with the value for it. -/
def place? (schema : Schema) (argument : Argument) : Option (Parameter × Text) :=
  match schema.named? argument with
  | some place => some place
  | none => schema.default?.map fun p => (p, argument.text)

/-- Binds the arguments from place `index` on, beside what is bound already. -/
def bindFrom (schema : Schema) (command : Text) :
    Nat → Dictionary Text → List Argument → Run (Dictionary Text)
  | _, bound, [] => pure bound
  | index, bound, argument :: arguments =>
    match schema.place? argument with
    | none => Run.fail (.tooManyArguments command index argument.text)
    | some (p, value) =>
      if (bound.get? p.name).isSome then
        Run.fail (.tooManyArguments command index argument.text)
      else do
        Run.emit (.boundArgument command p.name index)
        schema.bindFrom command (index + 1) (bound.insert p.name value) arguments

/-- A command without arguments lacks its default parameter, even an optional one. -/
def missing? (schema : Schema) (arguments : List Argument) (bound : Dictionary Text) :
    Option Parameter :=
  match arguments with
  | [] => schema.default?.or schema.required.head?
  | _ :: _ => schema.required.find? fun p => (bound.get? p.name).isNone

def bind (schema : Schema) (command : Text) (arguments : List Argument) : Run Bindings := do
  let bound ← schema.bindFrom command 1 ∅ arguments
  match schema.missing? arguments bound with
  | some p => Run.fail (.missingArgument command p.name)
  | none => pure ⟨command, bound⟩

end Schema
end CollectionScript
