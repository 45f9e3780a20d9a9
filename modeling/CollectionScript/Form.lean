import CollectionScript.Bindings
import CollectionScript.Command

/-! The form of a command: its keyword, its parameters, how a command is built from their values, and
where and how often it is kept. -/
namespace CollectionScript

inductive Role where
  /-- Kept under its keyword. -/
  | preamble
  /-- Kept in the order of the script. -/
  | action
  deriving DecidableEq, Repr

inductive Cardinality where
  | singleton | multi
  deriving DecidableEq, Repr

/-- What becomes of a singleton that is declared again. -/
inductive Redeclare where
  | overwrite | reject
  deriving DecidableEq, Repr

instance : Inhabited Redeclare := ⟨.overwrite⟩

structure Form where
  keyword : Text
  role : Role
  cardinality : Cardinality
  redeclare : Redeclare
  schema : Schema
  build : Bindings → Except Error Command

namespace Form

def preamble (keyword : Text) (schema : Schema) (build : Bindings → Except Error Command) : Form :=
  ⟨keyword, .preamble, .singleton, .overwrite, schema, build⟩

def action (keyword : Text) (schema : Schema) (build : Bindings → Except Error Command) : Form :=
  ⟨keyword, .action, .multi, .overwrite, schema, build⟩

def construct (form : Form) (arguments : List Argument) : Run Command := do
  let bindings ← form.schema.bind form.keyword arguments
  Run.ofExcept (form.build bindings)

end Form
end CollectionScript
