import CollectionScript.Limits
import CollectionScript.Script.Settings
import CollectionScript.Text.Lines
import CollectionScript.Vocabulary
import CollectionScript.Word

/-! Reading scripts. Each line is split into words, references are replaced by values, the arguments are
bound, the command is built and kept. The first failure ends the reading. -/
namespace CollectionScript

/-- The overrides take precedence over the environment. -/
structure Parser where
  vocabulary : Vocabulary := .builtin
  environment : Environment := fun _ => none
  overrides : Dictionary Text := ∅
  limits : Limits := {}
  log : LogPolicy := {}

namespace Parser

/-- The environment is asked only for what the overrides do not settle. -/
def lookup (parser : Parser) (name : Text) : Run (Option Text) :=
  match parser.overrides.get? name with
  | some value => pure (some value)
  | none => Run.ask name (parser.environment name)

/-- A comment's first character that is not white space is a number sign. -/
def isComment (line : Text) : Bool := (Text.trimStart line).head? == some '#'

/-- The form and the command of a line; blank lines and comments have none. -/
def bindLine (parser : Parser) (line : Text) : Run (Option (Form × Command)) := do
  Run.ofExcept (parser.limits.checkLine line)
  if isComment line then pure none
  else
    match ← Run.ofExcept (splitLine line) with
    | none => pure none
    | some (keyword, words) =>
      let form ← Run.ofExcept (parser.vocabulary.find keyword)
      Run.ofExcept (parser.limits.checkArguments words.length)
      Run.emit (.bindingCommand form.keyword words.length (parser.log.renderLine line))
      let arguments ← Argument.ofWords parser.lookup parser.log words
      let command ← form.construct arguments
      pure (some (form, command))

def parseLine (parser : Parser) (line : Text) : Run (Option Command) := do
  let bound ← parser.bindLine line
  pure (bound.map (·.2))

/-- Reads the lines from `number` on into a script that has `count` commands so far. -/
def parseLines (parser : Parser) : Nat → Nat → Script → List Text → Run Script
  | _, _, script, [] => pure script
  | number, count, script, line :: lines => do
    match ← (parser.bindLine line).atLine number with
    | none => parser.parseLines (number + 1) count script lines
    | some (form, command) =>
      (Run.ofExcept (parser.limits.checkCommands (count + 1))).atLine number
      let script ← (script.add form command).atLine number
      parser.parseLines (number + 1) (count + 1) script lines

def parse (parser : Parser) (source : Text) : Run Script := do
  Run.emit (.parsingScript (Text.lines source).length source.byteSize)
  parser.parseLines 1 0 ∅ (Text.lines source)

/-- Asks for the home directory only where the script declares no configuration. -/
def kubeconfig (parser : Parser) (script : Script) : Run Text :=
  match script.kubeconfig? with
  | some path => pure path
  | none => do
    let home ← parser.lookup "HOME"
    pure (Script.homeKubeconfig (home.getD []))

end Parser
end CollectionScript
