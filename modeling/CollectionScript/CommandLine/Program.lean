import CollectionScript.CommandLine.Directory
import CollectionScript.CommandLine.Options
import CollectionScript.CommandLine.Plain
import CollectionScript.CommandLine.Report
import CollectionScript.Json.Pretty
import CollectionScript.Parser

/-! The program behind the command line: it reads one script, given in place or by a file's name, and
prints it as JSON. -/
namespace CollectionScript
namespace CommandLine

structure Result where
  exitCode : Nat
  output : Text
  errors : Text
  deriving DecidableEq, Repr

def versionText : Text := "diagscript 0.1.0\n"

def helpText : Text := "Diagnostics script parser

Usage: diagscript [OPTIONS] [SCRIPT]

Arguments:
  [SCRIPT]  Script file to parse

Options:
  -c <COMMAND>           Parse the given script string
      --env <KEY=VALUE>  Set a variable for $NAME expansion (overrides the process environment)
      --strict           Fail when a single-instance command is declared twice
  -v, --verbose          Log parsing progress to stderr
  -h, --help             Print help
  -V, --version          Print version
"

/-- A script given in place goes before a file. -/
def sourceText (options : Options) (readFile : Text → Except ReadError Text) :
    Except Failure Text :=
  match options.command, options.script with
  | some command, _ => .ok command
  | none, some path =>
    (readFile path).mapError fun e => ⟨"Failed to read script: " ++ path, [e.message]⟩
  | none, none =>
    .error ⟨"no script given\nUsage: diagscript -c 'script' or diagscript FILE", []⟩

def parserOf (options : Options) (environment : Environment) : Parser where
  vocabulary :=
    if options.strict then Vocabulary.builtin.withRedeclare .reject else .builtin
  environment := environment
  overrides := .ofList options.assignments

/-- Prints the script that was read, after the log if that is wanted. -/
def report (options : Options) (read : Run Script) : Result :=
  let log := if options.verbose then logLines read.events else []
  match read.outcome with
  | .ok script => ⟨0, script.toJson.pretty ++ ['\n'], log⟩
  | .error e => ⟨1, [], log ++ Failure.render ⟨"Failed to parse script", e.causes⟩⟩

def runOptions (options : Options) (environment : Environment)
    (readFile : Text → Except ReadError Text) : Result :=
  match sourceText options readFile with
  | .error failure => ⟨1, [], failure.render⟩
  | .ok source => report options ((parserOf options environment).parse source)

def run (arguments : List Text) (environment : Environment)
    (readFile : Text → Except ReadError Text) : Result :=
  match Options.read arguments with
  | .error (.usage e) => ⟨2, [], plainSpans e.spans⟩
  | .error .version => ⟨0, versionText, []⟩
  | .error .help => ⟨0, helpText, []⟩
  | .ok options => runOptions options environment readFile

/-- Every variable that a line of the source refers to. -/
def mentionedVariables (source : Text) : List Text :=
  (Text.lines source).flatMap fun line =>
    match words line with
    | .ok words => words.filterMap Variable.reference?
    | .error _ => []

end CommandLine
end CollectionScript
