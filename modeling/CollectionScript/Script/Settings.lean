import CollectionScript.Script

/-! The settings of a script. A setting is the last command under its keyword if that command is of the
keyword's own form, and has a default otherwise. -/
namespace CollectionScript
namespace Script

def last? (script : Script) (keyword : Text) : Option Command :=
  (script.preambles.get keyword).getLast?

def output (script : Script) : Text :=
  match script.last? "OUTPUT" with
  | some (.output path) => path
  | _ => "out.tar.gz"

def workdir (script : Script) : Text :=
  match script.last? "WORKDIR" with
  | some (.workdir path) => path
  | _ => "/tmp/crashdir"

def source? (script : Script) : Option Source :=
  match script.last? "FROM" with
  | some (.source source) => some source
  | _ => none

def hosts (script : Script) : List Text :=
  match script.source? with
  | some source => source.hosts
  | none => ["local"]

def port (script : Script) : Nat :=
  match script.source? with
  | some source => source.port
  | none => Source.defaultPort

def identity? (script : Script) : Option Identity :=
  match script.last? "AS" with
  | some (.runAs identity) => some identity
  | _ => none

def login? (script : Script) : Option Login :=
  match script.last? "AUTHCONFIG" with
  | some (.login login) => some login
  | _ => none

/-- The declared configuration; the default lies below a home directory. -/
def kubeconfig? (script : Script) : Option Text :=
  match script.last? "KUBECONFIG" with
  | some (.kubeconfig path) => some path
  | _ => none

/-- The home directory counts without the slashes at its end. -/
def homeKubeconfig (home : Text) : Text :=
  (home.reverse.dropWhile (· == '/')).reverse ++ "/.kube/config"

/-- All assignments, in the order of declaration. -/
def exports (script : Script) : List Assignment :=
  (script.preambles.get "ENV").flatMap fun
    | .exports assignments => assignments
    | _ => []

end Script
end CollectionScript
