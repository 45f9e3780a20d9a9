import CollectionScript.CommandLine.Program

/-! The command line. It reads the file and the variables that the program asks for and leaves all else
to `CommandLine.runOptions`. -/
namespace CollectionScript
namespace CommandLine

/-- The text of a file, or why it cannot be read. -/
def readFile (path : Text) : IO (Except ReadError Text) := do
  try
    return textOfBytes (← IO.FS.readBinFile (String.ofList path))
  catch
    | .noFileOrDirectory .. => return .error .notFound
    | .inappropriateType _ code _ => return .error (if code = 21 then .isDirectory else .notDirectory)
    | .permissionDenied .. => return .error (.other "Permission denied (os error 13)")
    | e => return .error (.other (toString e))

/-- Those of the variables that are set, with their values. -/
def readVariables : List Text → IO (List (Text × Text))
  | [] => return []
  | name :: names => do
    let rest ← readVariables names
    match ← IO.getEnv (String.ofList name) with
    | some value => return (name, value.toList) :: rest
    | none => return rest

def execute (arguments : List Text) : IO Result := do
  match Options.read arguments with
  | .error _ => return run arguments (fun _ => none) fun _ => .error .notFound
  | .ok options =>
    let content ← match options.command, options.script with
      | none, some path => readFile path
      | _, _ => pure (.error .notFound)
    let names := match sourceText options fun _ => content with
      | .ok source => mentionedVariables source
      | .error _ => []
    return runOptions options (.ofList (← readVariables names)) fun _ => content

end CommandLine
end CollectionScript

def main (arguments : List String) : IO UInt32 := do
  let result ← CollectionScript.CommandLine.execute (arguments.map String.toList)
  (← IO.getStdout).putStr (String.ofList result.output)
  (← IO.getStderr).putStr (String.ofList result.errors)
  return result.exitCode.toUInt32
