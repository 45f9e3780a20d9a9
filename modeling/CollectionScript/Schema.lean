import CollectionScript.Error

/-! The parameters that a command takes. -/
namespace CollectionScript

/-- The default parameter is the one that an argument without a name goes to. -/
structure Parameter where
  name : Text
  isDefault : Bool := false
  isRequired : Bool := false
  deriving DecidableEq, Repr

structure Schema where
  parameters : List Parameter
  deriving DecidableEq, Repr

namespace Schema

def find? (schema : Schema) (name : Text) : Option Parameter :=
  schema.parameters.find? (·.name = name)

def default? (schema : Schema) : Option Parameter := schema.parameters.find? (·.isDefault)

def required (schema : Schema) : List Parameter := schema.parameters.filter (·.isRequired)

/-- The first parameter with a bad name or the name of an earlier one. -/
def nameFault? : List Text → List Parameter → Option Text
  | _, [] => none
  | seen, p :: ps =>
    if p.name = [] ∨ ':' ∈ p.name then some ("invalid parameter name '" ++ p.name ++ "'")
    else if p.name ∈ seen then some ("duplicate parameter '" ++ p.name ++ "'")
    else nameFault? (p.name :: seen) ps

def defaultFault? (schema : Schema) : Option Text :=
  let count := schema.parameters.countP (·.isDefault)
  if count ≤ 1 then none else some (Text.decimal count ++ " default parameters")

/-- Names are distinct, not empty and without colons, and there is at most one default. -/
def validate (schema : Schema) (command : Text) : Except Error Unit :=
  match (nameFault? [] schema.parameters).or schema.defaultFault? with
  | none => .ok ()
  | some reason => .error (.invalidSchema command reason)

end Schema
end CollectionScript
