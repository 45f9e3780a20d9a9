import CollectionScript.Text

/-! Reading a script from a file, and a snapshot of a directory to read it from. -/
namespace CollectionScript
namespace CommandLine

/-- Why a file cannot be read as text. -/
inductive ReadError where
  | notFound
  | notDirectory
  | isDirectory
  | nameTooLong
  | notText
  | other (message : Text)
  deriving DecidableEq, Repr

def ReadError.message : ReadError → Text
  | .notFound => "No such file or directory (os error 2)"
  | .notDirectory => "Not a directory (os error 20)"
  | .isDirectory => "Is a directory (os error 21)"
  | .nameTooLong => "File name too long (os error 36)"
  | .notText => "stream did not contain valid UTF-8"
  | .other message => message

/-- The text of a file, which is its content under UTF-8. -/
def textOfBytes (bytes : ByteArray) : Except ReadError Text :=
  match String.fromUTF8? bytes with
  | some s => .ok s.toList
  | none => .error .notText

inductive Node where
  | file (bytes : ByteArray)
  | directory

/-- What lies below the working directory, by the names on the way to it. -/
abbrev Directory := List (List Text × Node)

/-- Where a path has led: to names below the working directory, or to a directory above it, of which
nothing else is known. -/
inductive Place where
  | below (names : List Text)
  | above
  deriving DecidableEq, Repr

namespace Place

def parent : Place → Place
  | below [] => above
  | below names => below names.dropLast
  | above => above

def child? (name : Text) : Place → Option Place
  | below names => some (below (names ++ [name]))
  | above => none

end Place

namespace Directory

def node? (directory : Directory) : Place → Option Node
  | .above => some .directory
  | .below [] => some .directory
  | .below names =>
    match directory.lookup names with
    | some node => some node
    | none =>
      if directory.any fun entry => names.isPrefixOf entry.1 then some .directory else none

/-- Takes the next component of a path from a directory. -/
def enter (place : Place) (component : Text) : Except ReadError Place :=
  if component = [] ∨ component = ['.'] then .ok place
  else if component = ['.', '.'] then .ok place.parent
  else if 255 < component.byteSize then .error .nameTooLong
  else
    match place.child? component with
    | some child => .ok child
    | none => .error .notFound

/-- Follows the components of a path. -/
def follow (directory : Directory) (place : Place) : List Text → Except ReadError Node
  | [] =>
    match directory.node? place with
    | some node => .ok node
    | none => .error .notFound
  | component :: components =>
    match directory.node? place with
    | none => .error .notFound
    | some (.file _) => .error .notDirectory
    | some .directory => do directory.follow (← enter place component) components

/-- Reads the file at a path. A path from the root starts above the working directory. -/
def read (directory : Directory) (path : Text) : Except ReadError Text := do
  if 4096 ≤ path.byteSize then .error .nameTooLong
  else
    let start := if path.head? = some '/' then Place.above else .below []
    match ← directory.follow start (path.splitOnP (· == '/')) with
    | .file bytes => textOfBytes bytes
    | .directory => .error .isDirectory

end Directory
end CommandLine
end CollectionScript
