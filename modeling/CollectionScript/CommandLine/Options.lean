import CollectionScript.Text

/-! The options of the command line. An option that takes a value, and the script's name, stay pending
until the next option or the end shows that they are complete; only then are they checked and kept. -/
namespace CollectionScript
namespace CommandLine

structure Options where
  command : Option Text := none
  script : Option Text := none
  assignments : List (Text × Text) := []
  strict : Bool := false
  verbose : Bool := false
  deriving DecidableEq, Repr

/-- What takes a value. -/
inductive Slot where
  | command | script | variable
  deriving DecidableEq, Repr

/-- What takes none. -/
inductive Switch where
  | strict | verbose | version | help
  deriving DecidableEq, Repr

def Slot.label : Slot → Text
  | .command => "-c <COMMAND>"
  | .script => "[SCRIPT]"
  | .variable => "--env <KEY=VALUE>"

def Switch.label : Switch → Text
  | .strict => "--strict"
  | .verbose => "--verbose"
  | .version => "--version"
  | .help => "--help"

inductive UsageError where
  | valueRequired (slot : Slot)
  | repeated (label : Text)
  | unexpectedArgument (argument : Text)
  | unexpectedValue (value : Text) (switch : Switch)
  | invalidValue (value : Text) (slot : Slot) (reason : Text)
  deriving DecidableEq, Repr

/-- The end of a usage error's text: the last span of the error goes on into a hint. -/
def withHint (last : Text) : List Text :=
  [last ++ "\n\nFor more information, try '", "--help", "'.\n"]

/-- The text of a usage error in spans of one style each. What was given and what it was given for stand
out; a reason does not. -/
def UsageError.spans : UsageError → List Text
  | .valueRequired slot =>
    "error: a value is required for '" :: slot.label :: withHint "' but none was supplied"
  | .repeated label =>
    "error: the argument '" :: label :: withHint "' cannot be used multiple times"
  | .unexpectedArgument argument =>
    "error: unexpected argument '" :: argument :: withHint "' found"
  | .unexpectedValue value switch =>
    "error: unexpected value '" :: value :: "' for '" :: switch.label
      :: withHint "' found; no more were expected"
  | .invalidValue value slot reason =>
    "error: invalid value '" :: value :: "' for '" :: slot.label :: withHint ("': " ++ reason)

/-- Why the arguments are not read to their end. -/
inductive Stop where
  | usage (e : UsageError)
  | version
  | help
  deriving DecidableEq, Repr

/-- What has been read, and what is pending: a slot, with its value once that is known. -/
structure Reading where
  options : Options := {}
  pending : Option (Slot × Option Text) := none
  deriving DecidableEq, Repr

def readVariable (value : Text) : Except UsageError (Text × Text) :=
  match Text.cut? '=' value with
  | none => .error (.invalidValue value .variable ("expected KEY=VALUE, got '" ++ value ++ "'"))
  | some ([], _) =>
    .error (.invalidValue value .variable ("empty variable name in '" ++ value ++ "'"))
  | some assignment => .ok assignment

/-- Keeps the value of a slot. -/
def Options.fill (options : Options) (value : Text) : Slot → Except UsageError Options
  | .command =>
    if options.command.isSome then .error (.repeated Slot.command.label)
    else .ok { options with command := some value }
  | .script =>
    if value = [] then .error (.valueRequired .script)
    else .ok { options with script := some value }
  | .variable => do
    let assignment ← readVariable value
    .ok { options with assignments := options.assignments ++ [assignment] }

def Options.turnOn (options : Options) : Switch → Except Stop Options
  | .strict =>
    if options.strict then .error (.usage (.repeated Switch.strict.label))
    else .ok { options with strict := true }
  | .verbose =>
    if options.verbose then .error (.usage (.repeated Switch.verbose.label))
    else .ok { options with verbose := true }
  | .version => .error .version
  | .help => .error .help

namespace Reading

/-- Keeps what is pending. -/
def settle (reading : Reading) : Except Stop Options :=
  match reading.pending with
  | none => .ok reading.options
  | some (slot, none) => .error (.usage (.valueRequired slot))
  | some (slot, some value) => (reading.options.fill value slot).mapError .usage

/-- Whether the next argument may be the value of a pending option. -/
def isWaiting (reading : Reading) : Bool :=
  match reading.pending with
  | some (_, none) => true
  | _ => false

/-- Whether the script's name has been given. -/
def hasScript (reading : Reading) : Bool :=
  reading.options.script.isSome ||
    match reading.pending with
    | some (.script, _) => true
    | _ => false

def refuse {α : Type} (argument : Text) : Except Stop α :=
  .error (.usage (.unexpectedArgument argument))

def turnOn (reading : Reading) (switch : Switch) : Except Stop Reading := do
  let options ← reading.settle
  .ok ⟨← options.turnOn switch, none⟩

/-- A value that stands in one argument with its option is checked at once. -/
def attach (reading : Reading) (slot : Slot) (value : Text) : Except Stop Reading := do
  let options ← reading.settle
  .ok ⟨← (options.fill value slot).mapError .usage, none⟩

def await (reading : Reading) (slot : Slot) : Except Stop Reading := do
  .ok ⟨← reading.settle, some (slot, none)⟩

def positional (reading : Reading) (argument : Text) : Except Stop Reading :=
  if reading.hasScript then refuse argument
  else do .ok ⟨← reading.settle, some (.script, some argument)⟩

def switchOfName (name : Text) : Option Switch :=
  [Switch.strict, .verbose, .version, .help].find? fun switch => switch.label = "--" ++ name

/-- An argument after its two dashes. -/
def long (reading : Reading) (argument : Text) : Except Stop Reading :=
  let (name, value?) := match Text.cut? '=' argument with
    | some (name, value) => (name, some value)
    | none => (argument, none)
  if name = "env" then
    match value? with
    | some value => reading.attach .variable value
    | none => reading.await .variable
  else
    match switchOfName name, value? with
    | some switch, none => reading.turnOn switch
    | some switch, some value => .error (.usage (.unexpectedValue value switch))
    | none, _ => refuse ("--" ++ name)

/-- An argument after its dash. Switches may share it; what follows the letter of an option, after an
equals sign if there is one, is that option's value. -/
def short (reading : Reading) : Text → Except Stop Reading
  | [] => .ok reading
  | 'c' :: [] => reading.await .command
  | 'c' :: '=' :: value => reading.attach .command value
  | 'c' :: value => reading.attach .command value
  | 'v' :: r => do (← reading.turnOn .verbose).short r
  | 'V' :: r => do (← reading.turnOn .version).short r
  | 'h' :: r => do (← reading.turnOn .help).short r
  | c :: _ => refuse ['-', c]

/-- Reads arguments; after `--` none of them is an option. -/
def readAll (reading : Reading) (onlyNames : Bool) : List Text → Except Stop Options
  | [] => reading.settle
  | argument :: arguments => do
    if onlyNames then
      readAll (← reading.positional argument) true arguments
    else
      match argument with
      | ['-', '-'] => reading.readAll true arguments
      | '-' :: '-' :: r => readAll (← reading.long r) false arguments
      | '-' :: c :: r => readAll (← reading.short (c :: r)) false arguments
      | _ =>
        match reading.pending with
        | some (slot, none) => readAll ⟨reading.options, some (slot, some argument)⟩ false arguments
        | _ => readAll (← reading.positional argument) false arguments

end Reading

def Options.read (arguments : List Text) : Except Stop Options :=
  Reading.readAll {} false arguments

end CommandLine
end CollectionScript
