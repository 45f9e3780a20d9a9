import CollectionScript.Command
import CollectionScript.Json

/-! Commands as JSON objects: the keyword first, then the fields in the order of the parameters. A field
without a value is left out. -/
namespace CollectionScript

def Json.optional (name : Text) : Option Text → List (Text × Json)
  | some value => [(name, .string value)]
  | none => []

def Json.strings (items : List Text) : Json := .array (items.map .string)

def Assignment.toJson (assignment : Assignment) : Json :=
  .object [("name", .string assignment.name), ("value", .string assignment.value)]

def ShellCall.toFields (call : ShellCall) : List (Text × Json) :=
  ("cmd".toList, .string call.command) :: Json.optional "shell" call.shell

namespace Command

def toFields : Command → List (Text × Json)
  | .output path => [("path", .string path)]
  | .workdir path => [("path", .string path)]
  | .source origin => [("hosts", .strings origin.hosts), ("port", .number origin.port)]
  | .runAs identity =>
    ("userid".toList, .string identity.user) :: Json.optional "groupid" identity.group
  | .kubeconfig path => [("path", .string path)]
  | .login account =>
    ("username".toList, .string account.username) :: Json.optional "private-key" account.privateKey
  | .exports assignments => [("vars", .array (assignments.map Assignment.toJson))]
  | .copy paths => [("paths", .strings paths)]
  | .capture call => call.toFields
  | .run call => call.toFields

def toJson (command : Command) : Json :=
  .object (("command".toList, .string command.keyword) :: command.toFields)

end Command
end CollectionScript
