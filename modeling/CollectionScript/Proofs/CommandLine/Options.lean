import CollectionScript.CommandLine.Options
import CollectionScript.Proofs.Run

/-! What a command line says about variables and about strictness, read off its arguments one by one. Where
the arguments are accepted, an option that awaits a value is given it by the next argument, so that every
other argument stands for itself. -/
namespace CollectionScript
namespace CommandLine

/-- How an assignment stands on the command line. -/
def item (assignment : Text × Text) : Text := assignment.1 ++ '=' :: assignment.2

/-- The name is not empty, and the first equals sign is the one that ends it. -/
def HasName (assignment : Text × Text) : Prop := assignment.1 ≠ [] ∧ '=' ∉ assignment.1

/-- What the argument gives to `--env`: the rest of itself, or itself where a value is awaited. -/
def variableValue (awaited : Bool) (argument : Text) : List Text :=
  if argument = "--env" then []
  else if "--env=".toList.isPrefixOf argument then [argument.drop 6]
  else if awaited then [argument]
  else []

def variableValues (awaited : Bool) : List Text → List Text
  | [] => []
  | argument :: arguments =>
    if argument = "--" then []
    else variableValue awaited argument ++ variableValues (argument = "--env") arguments

def beforeNames (arguments : List Text) : List Text := arguments.takeWhile (· ≠ "--".toList)

namespace Options

/-- The options after more arguments: those give these values to `--env`, and ask for strictness or not. -/
structure Gains (options : Options) (values : List Text) (strict : Bool) (options' : Options) : Prop where
  assignments : ∃ added, options'.assignments = options.assignments ++ added ∧ added.map item = values ∧
    ∀ assignment ∈ added, HasName assignment
  strict_eq : options'.strict = (options.strict || strict)

variable {options middle options' : Options} {values values' : List Text} {strict strict' : Bool}

theorem Gains.trans (h : options.Gains values strict middle) (h' : middle.Gains values' strict' options') :
    options.Gains (values ++ values') (strict || strict') options' where
  assignments := by
    obtain ⟨added, heq, hvalues, hnames⟩ := h.assignments
    obtain ⟨added', heq', hvalues', hnames'⟩ := h'.assignments
    refine ⟨added ++ added', ?_, ?_, ?_⟩
    · rw [heq', heq, List.append_assoc]
    · rw [List.map_append, hvalues, hvalues']
    · intro assignment hassignment
      rcases List.mem_append.1 hassignment with hassignment | hassignment
      · exact hnames assignment hassignment
      · exact hnames' assignment hassignment
  strict_eq := by rw [h'.strict_eq, h.strict_eq, Bool.or_assoc]

def slotValue : Slot → Text → List Text
  | .variable, value => [value]
  | _, _ => []

end Options

namespace Reading

variable {reading next : Reading} {options : Options} {argument : Text} {arguments : List Text}

def pendingValues (reading : Reading) : List Text :=
  match reading.pending with
  | some (slot, some value) => Options.slotValue slot value
  | _ => []

def awaitsVariable (reading : Reading) : Bool := reading.pending = some (.variable, none)

/-- An option is read where no value is awaited. Nothing of `--env` is then pending but what is next. -/
structure Passes (reading : Reading) (values : List Text) (strict : Bool) (next : Reading) : Prop where
  not_waiting : reading.isWaiting = false
  gains : reading.options.Gains (reading.pendingValues ++ values) strict next.options
  pendingValues_eq : next.pendingValues = []

theorem Passes.trans {middle : Reading} (h : reading.Passes [] false middle)
    (h' : middle.Passes [] false next) : reading.Passes [] false next where
  not_waiting := h.not_waiting
  gains := by
    have hgains := h.gains.trans h'.gains
    rwa [h.pendingValues_eq, List.nil_append, List.append_nil] at hgains
  pendingValues_eq := h'.pendingValues_eq

/-- One step of the reading. What the argument gives to `--env` may be pending after it. -/
structure Takes (reading : Reading) (argument : Text) (next : Reading) : Prop where
  gains : ∃ values, reading.options.Gains values (argument = "--strict".toList) next.options ∧
    values ++ next.pendingValues = reading.pendingValues ++ variableValue reading.awaitsVariable argument
  awaits_eq : next.awaitsVariable = decide (argument = "--env".toList)

theorem Passes.takes (h : reading.Passes (variableValue false argument) (argument = "--strict".toList) next)
    (hawaits : next.awaitsVariable = decide (argument = "--env".toList)) : reading.Takes argument next where
  gains := by
    have hwaiting : reading.awaitsVariable = false := by
      have hnot := h.not_waiting
      unfold isWaiting at hnot
      unfold awaitsVariable
      split at hnot
      · cases hnot
      · next hother => exact decide_eq_false fun heq => hother _ heq
    exact ⟨_, h.gains, by rw [h.pendingValues_eq, hwaiting, List.append_nil]⟩
  awaits_eq := hawaits

end Reading

structure Options.Follows (options : Options) (arguments : List Text) : Prop where
  assignments_eq : options.assignments.map item = variableValues false arguments
  hasName : ∀ assignment ∈ options.assignments, HasName assignment
  strict_iff : options.strict = true ↔ "--strict".toList ∈ beforeNames arguments

end CommandLine
end CollectionScript
