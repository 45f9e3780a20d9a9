import CollectionScript.Text

/-! The commands of a collection script. Preambles configure the script as a whole; actions are the
steps of the collection. -/
namespace CollectionScript

/-- The machines to collect from, and the port to reach them at. -/
structure Source where
  hosts : List Text
  port : Nat
  deriving DecidableEq, Repr

/-- The port where none is given. -/
def Source.defaultPort : Nat := 22

/-- The user, and the group if one is given, to act as on the machines. -/
structure Identity where
  user : Text
  group : Option Text
  deriving DecidableEq, Repr

structure Login where
  username : Text
  privateKey : Option Text
  deriving DecidableEq, Repr

/-- A variable for the actions to see. -/
structure Assignment where
  name : Text
  value : Text
  deriving DecidableEq, Repr

structure ShellCall where
  command : Text
  shell : Option Text
  deriving DecidableEq, Repr

inductive Command where
  | output (path : Text)
  | workdir (path : Text)
  | source (source : Source)
  | runAs (identity : Identity)
  | kubeconfig (path : Text)
  | login (login : Login)
  | exports (assignments : List Assignment)
  | copy (paths : List Text)
  | capture (call : ShellCall)
  | run (call : ShellCall)
  deriving DecidableEq, Repr

namespace Command

def keyword : Command → Text
  | .output _ => "OUTPUT"
  | .workdir _ => "WORKDIR"
  | .source _ => "FROM"
  | .runAs _ => "AS"
  | .kubeconfig _ => "KUBECONFIG"
  | .login _ => "AUTHCONFIG"
  | .exports _ => "ENV"
  | .copy _ => "COPY"
  | .capture _ => "CAPTURE"
  | .run _ => "RUN"

/-- The path of an output command. -/
def outputPath? : Command → Option Text
  | .output path => some path
  | _ => none

end Command
end CollectionScript
