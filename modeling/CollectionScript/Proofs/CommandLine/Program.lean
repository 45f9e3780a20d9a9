import CollectionScript.CommandLine.Program
import CollectionScript.Proofs.CommandLine.Options
import CollectionScript.Proofs.Parser.Overlay

/-! The program does what the parser does that its options stand for: one with a single environment, that of
the process updated with the assignments of the command line. -/
namespace CollectionScript
namespace CommandLine

variable {options : Options} {environment environment' : Environment}
  {readFile : Text → Except ReadError Text} {source : Text} {read read' : Run Script}

/-- What is asked of the environment shows nowhere in a report. -/
theorem report_congr (h : Run.EqButReads read read') (options : Options) :
    report options read = report options read' := by
  rw [report, report, h.outcome_eq, h.events_eq]

theorem runOptions_congr (h : ∀ source, sourceText options readFile = .ok source →
    ∀ name ∈ mentionedVariables source, environment name = environment' name) :
    runOptions options environment readFile = runOptions options environment' readFile := by
  rw [runOptions, runOptions]
  cases hsource : sourceText options readFile with
  | error failure => rfl
  | ok source =>
    have hvalues : ∀ line ∈ Text.lines source, ∀ name ∈ Parser.mentions line,
        (parserOf options environment).value? name = (parserOf options environment').value? name := by
      intro line hline name hname
      have hmentioned : name ∈ mentionedVariables source := List.mem_flatMap.2 ⟨line, hline, hname⟩
      exact congrArg (Option.or _) (h source hsource name hmentioned)
    have hrules : (parserOf options environment).SameRules (parserOf options environment') := ⟨rfl, rfl, rfl⟩
    exact report_congr (hrules.parse hvalues) options

end CommandLine
end CollectionScript
