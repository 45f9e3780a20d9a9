import CollectionScript.Proofs.Parser.Reading

/-! What a line comes to, its events and reads left aside: an expression in the values of its references
and the forms of the vocabulary. -/
namespace CollectionScript
namespace Parser

def value? (parser : Parser) (name : Text) : Option Text :=
  (parser.overrides.get? name).or (parser.environment name)

def argument (parser : Parser) (word : Text) : Argument :=
  match Variable.reference? word with
  | none => .written word
  | some name => .substituted ((parser.value? name).getD [])

variable {parser : Parser}

theorem outcome_lookup (parser : Parser) (name : Text) :
    (parser.lookup name).outcome = .ok (parser.value? name) := by
  cases h : parser.overrides.get? name <;> simp [lookup, value?, h]

theorem outcome_ofWord (word : Text) :
    (Argument.ofWord parser.lookup parser.log word).outcome = .ok (parser.argument word) := by
  rw [Argument.ofWord, argument]
  cases Variable.reference? word with
  | none => rfl
  | some name => exact Run.outcome_bind_of_ok (parser.outcome_lookup name) _

/-- Substitution never fails. -/
theorem outcome_ofWords (ws : List Text) :
    (Argument.ofWords parser.lookup parser.log ws).outcome = .ok (ws.map parser.argument) := by
  induction ws with
  | nil => rfl
  | cons word ws ih =>
    rw [Argument.ofWords, Run.outcome_bind_of_ok (outcome_ofWord word), Run.outcome_bind_of_ok ih]
    rfl

theorem outcome_bindLine (line : Text) :
    (parser.bindLine line).outcome = (do
      parser.limits.checkLine line
      if isComment line then .ok none
      else match ← splitLine line with
      | none => .ok none
      | some (keyword, ws) => do
        let form ← parser.vocabulary.find keyword
        parser.limits.checkArguments ws.length
        let command ← (form.construct (ws.map parser.argument)).outcome
        .ok (some (form, command))) := by
  rw [bindLine, Run.outcome_bind]
  refine congrArg _ (funext fun _ => ?_)
  cases isComment line with
  | true => rfl
  | false =>
    simp only [Bool.false_eq_true, if_false, Run.outcome_bind, Run.outcome_ofExcept]
    refine congrArg _ (funext fun split => ?_)
    cases split with
    | none => rfl
    | some p =>
      simp only [Run.outcome_bind, Run.outcome_ofExcept, Run.outcome_emit, outcome_ofWords,
        except_ok_bind]
      rfl

end Parser
end CollectionScript
