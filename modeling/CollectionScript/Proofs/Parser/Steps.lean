import CollectionScript.Proofs.Parser.Reading

/-! Reading as a sequence of steps, one for each line. A step takes what has been read so far to what has
been read after one more line; the number of the line bears on the error of a step only. -/
namespace CollectionScript
namespace Parser

structure Progress where
  commands : Nat := 0
  script : Script := ∅

def readLine (parser : Parser) (progress : Progress) (line : Text) : Run Progress := do
  match ← parser.bindLine line with
  | none => pure progress
  | some (form, command) =>
    Run.ofExcept (parser.limits.checkCommands (progress.commands + 1))
    let script ← progress.script.add form command
    pure ⟨progress.commands + 1, script⟩

def readFrom (parser : Parser) (number : Nat) (progress : Progress) (lines : List Text) : Run Script :=
  parser.parseLines number progress.commands progress.script lines

variable (parser : Parser) (number : Nat) (progress : Progress)

theorem readFrom_nil : parser.readFrom number progress [] = pure progress.script := rfl

theorem readFrom_cons (line : Text) (lines : List Text) :
    parser.readFrom number progress (line :: lines) =
      ((parser.readLine progress line).atLine number >>= fun next =>
        parser.readFrom (number + 1) next lines) := by
  rw [readFrom, parseLines, readLine, Run.atLine_bind, bind_assoc]
  refine congrArg _ (funext fun bound => ?_)
  cases bound with
  | none => rfl
  | some p =>
    simp only [Run.atLine_bind, bind_assoc]
    rfl

variable {parser number progress}

theorem readFrom_cons_of_ok {line : Text} {next : Progress}
    (h : (parser.readLine progress line).outcome = .ok next) (lines : List Text) :
    parser.readFrom number progress (line :: lines) =
      ⟨(parser.readFrom (number + 1) next lines).outcome,
        (parser.readLine progress line).events ++ (parser.readFrom (number + 1) next lines).events,
        (parser.readLine progress line).reads ++ (parser.readFrom (number + 1) next lines).reads⟩ := by
  rw [readFrom_cons, Run.bind_of_ok (Run.outcome_atLine_eq_ok_iff.2 h)]
  rfl

theorem readFrom_cons_of_error {line : Text} {e : Error}
    (h : (parser.readLine progress line).outcome = .error e) (lines : List Text) :
    parser.readFrom number progress (line :: lines) =
      ⟨.error (e.atLine number), (parser.readLine progress line).events,
        (parser.readLine progress line).reads⟩ := by
  rw [readFrom_cons, Run.bind_of_error (Run.outcome_atLine_of_error h number)]
  rfl

def readLines (parser : Parser) (progress : Progress) (lines : List Text) : Run Progress :=
  lines.foldlM parser.readLine progress

theorem readLines_nil : parser.readLines progress [] = pure progress := rfl

theorem readLines_cons (line : Text) (lines : List Text) :
    parser.readLines progress (line :: lines) =
      (parser.readLine progress line >>= fun next => parser.readLines next lines) := List.foldlM_cons

theorem readLines_append (front back : List Text) :
    parser.readLines progress (front ++ back) =
      (parser.readLines progress front >>= fun next => parser.readLines next back) := List.foldlM_append

/-- The numbers of the lines leave what is logged and asked for alone. -/
theorem effects_readFrom (number : Nat) (progress : Progress) (lines : List Text) :
    (parser.readFrom number progress lines).events = (parser.readLines progress lines).events ∧
      (parser.readFrom number progress lines).reads = (parser.readLines progress lines).reads := by
  induction lines generalizing number progress with
  | nil => exact ⟨rfl, rfl⟩
  | cons line lines ih =>
    rw [readLines_cons]
    cases hstep : (parser.readLine progress line).outcome with
    | error e =>
      rw [readFrom_cons_of_error hstep, Run.bind_of_error hstep]
      exact ⟨rfl, rfl⟩
    | ok next =>
      obtain ⟨hevents, hreads⟩ := ih (number + 1) next
      rw [readFrom_cons_of_ok hstep, Run.bind_of_ok hstep, hevents, hreads]
      exact ⟨rfl, rfl⟩

theorem outcome_readFrom_append {front : List Text} {next : Progress}
    (h : (parser.readLines progress front).outcome = .ok next) (number : Nat) (back : List Text) :
    (parser.readFrom number progress (front ++ back)).outcome =
      (parser.readFrom (number + front.length) next back).outcome := by
  induction front generalizing number progress with
  | nil =>
    obtain rfl : progress = next := Except.ok.inj h
    rfl
  | cons line front ih =>
    obtain ⟨middle, hstep, hfront⟩ := Run.outcome_bind_eq_ok_iff.1 h
    rw [List.cons_append, readFrom_cons_of_ok hstep, ih hfront, List.length_cons, Nat.add_assoc,
      Nat.add_comm 1]

theorem outcome_readFrom_of_error {front : List Text} {line : Text} {next : Progress} {e : Error}
    (h : (parser.readLines progress front).outcome = .ok next)
    (hline : (parser.readLine next line).outcome = .error e) (number : Nat) (back : List Text) :
    (parser.readFrom number progress (front ++ line :: back)).outcome =
      .error (e.atLine (number + front.length)) := by
  rw [outcome_readFrom_append h, readFrom_cons_of_error hline]

theorem outcome_readFrom_eq_ok_iff {number : Nat} {lines : List Text} {script : Script} :
    (parser.readFrom number progress lines).outcome = .ok script ↔
      ∃ next, (parser.readLines progress lines).outcome = .ok next ∧ next.script = script := by
  induction lines generalizing number progress with
  | nil => simp [readFrom_nil, readLines_nil]
  | cons line lines ih =>
    rw [readLines_cons]
    cases hstep : (parser.readLine progress line).outcome with
    | error e =>
      rw [readFrom_cons_of_error hstep, Run.bind_of_error hstep]
      simp
    | ok next => rw [readFrom_cons_of_ok hstep, Run.outcome_bind_of_ok hstep, ih]

variable (parser)

def eventsOf (lines : List Text) : List Event := (parser.parseLines 1 0 ∅ lines).events

theorem outcome_parse (source : Text) :
    (parser.parse source).outcome = (parser.readFrom 1 {} (Text.lines source)).outcome :=
  Run.outcome_bind_of_ok (Run.outcome_emit _) _

theorem reads_parse (source : Text) :
    (parser.parse source).reads = (parser.readFrom 1 {} (Text.lines source)).reads := by
  rw [parse, Run.bind_of_ok (Run.outcome_emit _)]
  rfl

theorem events_parse (source : Text) :
    (parser.parse source).events =
      .parsingScript (Text.lines source).length source.byteSize :: parser.eventsOf (Text.lines source) := by
  rw [parse, Run.bind_of_ok (Run.outcome_emit _)]
  rfl

end Parser
end CollectionScript
